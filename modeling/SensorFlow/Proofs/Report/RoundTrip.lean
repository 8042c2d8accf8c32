import SensorFlow.Proofs.Json.Widening

/-!
# Documents read back

Symbols, entry points and reports are recovered from the documents written for them, also if the
documents have been widened. Each kind of object has its own names, and the readers follow the
nesting of the documents, so the result for reports is put together kind by kind.
-/
namespace SensorFlow
open Json
set_option autoImplicit false

namespace Json

@[simp] theorem asObject_obj (members : List (String × Json)) :
    asObject (.obj members) = .ok members := rfl

@[simp] theorem ok_bind {α β : Type} (value : α) (next : α → Decoded β) :
    (Except.ok value : Decoded α) >>= next = next value := rfl

@[simp] theorem pure_eq_ok {α : Type} (value : α) : (pure value : Decoded α) = .ok value := rfl

@[simp] theorem asString_str (text : String) : asString (.str text) = .ok text := rfl

@[simp] theorem asInt_int (value : Int) : asInt (.int value) = .ok value := rfl

@[simp] theorem asBool_bool (value : Bool) : asBool (.bool value) = .ok value := rfl

@[simp] theorem asNumber_float (value : Rat) : asNumber (.float value) = .ok value := rfl

@[simp] theorem asOptional_optional (text : Option String) :
    asOptional asString (optional text) = .ok text := by
  cases text <;> rfl

theorem mapM_map_of_eq_ok {α : Type} {read : Json → Decoded α} {write : α → Json}
    (hRead : ∀ item, read (write item) = .ok item) (items : List α) :
    (items.map write).mapM read = .ok items :=
  mapM_eq_ok (List.forall₂_map_right_iff.2 (List.forall₂_same.2 fun item _ => hRead item))

@[simp] theorem asList_strings (texts : List String) :
    asList asString (strings texts) = .ok texts :=
  mapM_map_of_eq_ok asString_str texts

end Json

theorem Sensor.ofJson_label (sensor : Sensor) : Sensor.ofJson (.str sensor.label) = .ok sensor := by
  cases sensor <;> rfl

theorem Sensor.ofJson_labels (sensors : List Sensor) :
    asList Sensor.ofJson (strings (sensors.map Sensor.label)) = .ok sensors := by
  rw [strings, List.map_map]
  exact mapM_map_of_eq_ok Sensor.ofJson_label sensors

theorem NodeRole.ofJson_label (role : NodeRole) : NodeRole.ofJson (.str role.label) = .ok role := by
  cases role <;> rfl

theorem ThreadHint.asLabel_label (hint : ThreadHint) :
    asLabel "ThreadHint" ThreadHint.all ThreadHint.label (.str hint.label) = .ok hint := by
  cases hint <;> rfl

theorem EdgeKind.ofJson_label (kind : EdgeKind) : EdgeKind.ofJson (.str kind.label) = .ok kind := by
  cases kind <;> rfl

theorem IssueKind.ofJson_label (kind : IssueKind) :
    IssueKind.ofJson (.str kind.label) = .ok kind := by
  cases kind <;> rfl

theorem Severity.ofJson_label (severity : Severity) :
    Severity.ofJson (.str severity.label) = .ok severity := by
  cases severity <;> rfl

def Parameter.Widens : Widening := ObjectWidens ["name", "type"] []

theorem Parameter.widens_self (p : Parameter) : Parameter.Widens p.toJson p.toJson :=
  .self (by simp) (by simp)

theorem Parameter.recovers (p : Parameter) :
    Recovers Parameter.Widens Parameter.ofJson p.toJson p := by
  intro wide hWidens
  obtain ⟨members, rfl, hPlain, _⟩ := hWidens.exists_members
  simp [Parameter.ofJson, required, hPlain, member?]

def MethodSymbol.Widens : Widening :=
  ObjectWidens ["name", "qualified_name", "return_type", "line_number", "calls_to", "annotations"]
    [("parameters", ItemsWiden Parameter.Widens)]

theorem MethodSymbol.widens_self (m : MethodSymbol) : MethodSymbol.Widens m.toJson m.toJson :=
  .self (by simp) (by simp [ItemsWiden.self Parameter.widens_self])

theorem MethodSymbol.recovers (m : MethodSymbol) :
    Recovers MethodSymbol.Widens MethodSymbol.ofJson m.toJson m := by
  intro wide hWidens
  obtain ⟨members, rfl, hPlain, hNested⟩ := hWidens.exists_members
  obtain ⟨parameters, hParameters, hWider⟩ := hNested _ (.head _) _ rfl
  have hRead := recovers_list Parameter.recovers m.parameters parameters hWider
  simp [MethodSymbol.ofJson, required, defaulted, hPlain, member?, hParameters, hRead]

def FieldSymbol.Widens : Widening :=
  ObjectWidens ["name", "type", "is_live_data", "is_state_flow", "is_flow", "line_number"] []

theorem FieldSymbol.widens_self (f : FieldSymbol) : FieldSymbol.Widens f.toJson f.toJson :=
  .self (by simp) (by simp)

theorem FieldSymbol.recovers (f : FieldSymbol) :
    Recovers FieldSymbol.Widens FieldSymbol.ofJson f.toJson f := by
  intro wide hWidens
  obtain ⟨members, rfl, hPlain, _⟩ := hWidens.exists_members
  simp [FieldSymbol.ofJson, required, defaulted, hPlain, member?]

def ClassSymbol.Widens : Widening :=
  ObjectWidens
    ["name", "qualified_name", "file_path", "package_name", "super_class", "interfaces",
      "is_activity", "is_fragment", "is_view_model", "is_composable"]
    [("methods", ItemsWiden MethodSymbol.Widens), ("fields", ItemsWiden FieldSymbol.Widens)]

theorem ClassSymbol.widens_self (c : ClassSymbol) : ClassSymbol.Widens c.toJson c.toJson :=
  .self (by simp) (by
    simp [ItemsWiden.self MethodSymbol.widens_self, ItemsWiden.self FieldSymbol.widens_self])

theorem ClassSymbol.recovers (c : ClassSymbol) :
    Recovers ClassSymbol.Widens ClassSymbol.ofJson c.toJson c := by
  intro wide hWidens
  obtain ⟨members, rfl, hPlain, hNested⟩ := hWidens.exists_members
  obtain ⟨methods, hMethods, hWiderMethods⟩ := hNested _ (.head _) _ rfl
  obtain ⟨fields, hFields, hWiderFields⟩ := hNested _ (.tail _ (.head _)) _ rfl
  have hReadMethods := recovers_list MethodSymbol.recovers c.methods methods hWiderMethods
  have hReadFields := recovers_list FieldSymbol.recovers c.fields fields hWiderFields
  simp [ClassSymbol.ofJson, required, defaulted, hPlain, member?, hMethods, hReadMethods, hFields,
    hReadFields]

def EntryPoint.Widens : Widening :=
  ObjectWidens
    ["class_qualified_name", "method_qualified_name", "sensor_type", "file_path", "line_number"] []

theorem EntryPoint.widens_self (e : EntryPoint) : EntryPoint.Widens e.toJson e.toJson :=
  .self (by simp) (by simp)

theorem EntryPoint.recovers (e : EntryPoint) :
    Recovers EntryPoint.Widens EntryPoint.ofJson e.toJson e := by
  intro wide hWidens
  obtain ⟨members, rfl, hPlain, _⟩ := hWidens.exists_members
  simp [EntryPoint.ofJson, deciding, required, hPlain, member?, Sensor.ofJson_label]

def NodeFacts.Widens : Widening :=
  ObjectWidens ["has_lifecycle", "thread_hint", "state_exposure"] []

theorem NodeFacts.widens_self (f : NodeFacts) : NodeFacts.Widens f.toJson f.toJson :=
  .self (by simp) (by simp)

theorem NodeFacts.recovers (f : NodeFacts) :
    Recovers NodeFacts.Widens NodeFacts.ofJson f.toJson f := by
  intro wide hWidens
  obtain ⟨members, rfl, hPlain, _⟩ := hWidens.exists_members
  simp [NodeFacts.ofJson, defaulted, hPlain, member?, ThreadHint.asLabel_label]

def Node.Widens : Widening :=
  ObjectWidens
    ["id", "name", "qualified_name", "type", "file_path", "methods", "sensor_types"]
    [("metadata", NodeFacts.Widens)]

theorem Node.widens_self (n : Node) : Node.Widens n.toJson n.toJson :=
  .self (by simp) (by simp [NodeFacts.widens_self])

theorem Node.recovers (fresh : String) (n : Node) :
    Recovers Node.Widens (Node.ofJson fresh) n.toJson n := by
  intro wide hWidens
  obtain ⟨members, rfl, hPlain, hNested⟩ := hWidens.exists_members
  obtain ⟨facts, hFacts, hWider⟩ := hNested _ (.head _) _ rfl
  have hRead := NodeFacts.recovers n.facts facts hWider
  simp [Node.ofJson, deciding, required, defaulted, hPlain, member?, NodeRole.ofJson_label,
    Sensor.ofJson_labels, hFacts, hRead]

def SourceLocation.Widens : Widening := ObjectWidens ["file_path", "line_number"] []

theorem SourceLocation.widens_self (l : SourceLocation) : SourceLocation.Widens l.toJson l.toJson :=
  .self (by simp) (by simp)

theorem SourceLocation.recovers (l : SourceLocation) :
    Recovers SourceLocation.Widens SourceLocation.ofJson l.toJson l := by
  intro wide hWidens
  obtain ⟨members, rfl, hPlain, _⟩ := hWidens.exists_members
  simp [SourceLocation.ofJson, required, hPlain, member?]

def Edge.Widens : Widening :=
  ObjectWidens ["id", "from_id", "to_id", "type"]
    [("source_location", PartWidens SourceLocation.Widens)]

theorem Edge.widens_self (e : Edge) : Edge.Widens e.toJson e.toJson :=
  .self (by simp) (by simp [PartWidens.self SourceLocation.widens_self])

theorem Edge.recovers (fresh : String) (e : Edge) :
    Recovers Edge.Widens (Edge.ofJson fresh) e.toJson e := by
  intro wide hWidens
  obtain ⟨members, rfl, hPlain, hNested⟩ := hWidens.exists_members
  obtain ⟨location, hLocation, hWider⟩ := hNested _ (.head _) _ rfl
  have hRead := recovers_part SourceLocation.recovers (fun _ => ⟨_, _, rfl⟩) e.location location
    hWider
  simp [Edge.ofJson, deciding, required, defaulted, hPlain, member?, EdgeKind.ofJson_label,
    hLocation, hRead]

def Graph.Widens : Widening :=
  ObjectWidens [] [("nodes", ItemsWiden Node.Widens), ("edges", ItemsWiden Edge.Widens)]

theorem Graph.widens_self (g : Graph) : Graph.Widens g.toJson g.toJson :=
  .self (by simp) (by simp [ItemsWiden.self Node.widens_self, ItemsWiden.self Edge.widens_self])

theorem Graph.recovers (fresh : FreshIds) (g : Graph) :
    Recovers Graph.Widens (Graph.ofJson fresh) g.toJson g := by
  intro wide hWidens
  obtain ⟨members, rfl, _, hNested⟩ := hWidens.exists_members
  obtain ⟨nodes, hNodes, hWiderNodes⟩ := hNested _ (.head _) _ rfl
  obtain ⟨edges, hEdges, hWiderEdges⟩ := hNested _ (.tail _ (.head _)) _ rfl
  have hReadNodes := recovers_indexed (fun pos => Node.recovers (fresh.node pos)) g.nodes nodes
    hWiderNodes
  have hReadEdges := recovers_indexed (fun pos => Edge.recovers (fresh.edge pos)) g.edges edges
    hWiderEdges
  simp [Graph.ofJson, defaulted, hNodes, hReadNodes, hEdges, hReadEdges]

def Flow.Widens : Widening := ObjectWidens ["sensor_type", "path", "confidence"] []

theorem Flow.widens_self (f : Flow) : Flow.Widens f.toJson f.toJson :=
  .self (by simp) (by simp)

theorem Flow.recovers (f : Flow) : Recovers Flow.Widens Flow.ofJson f.toJson f := by
  intro wide hWidens
  obtain ⟨members, rfl, hPlain, _⟩ := hWidens.exists_members
  simp [Flow.ofJson, deciding, required, defaulted, hPlain, member?, Sensor.ofJson_label]

def Issue.Widens : Widening :=
  ObjectWidens ["id", "type", "severity", "description", "recommendation", "node_refs"]
    [("code_refs", ItemsWiden SourceLocation.Widens)]

theorem Issue.widens_self (i : Issue) : Issue.Widens i.toJson i.toJson :=
  .self (by simp) (by simp [ItemsWiden.self SourceLocation.widens_self])

theorem Issue.recovers (fresh : String) (i : Issue) :
    Recovers Issue.Widens (Issue.ofJson fresh) i.toJson i := by
  intro wide hWidens
  obtain ⟨members, rfl, hPlain, hNested⟩ := hWidens.exists_members
  obtain ⟨code, hCode, hWider⟩ := hNested _ (.head _) _ rfl
  have hRead := recovers_list SourceLocation.recovers i.code code hWider
  simp [Issue.ofJson, deciding, required, defaulted, hPlain, member?, IssueKind.ofJson_label,
    Severity.ofJson_label, hCode, hRead]

def Report.Widens : Widening :=
  ObjectWidens
    ["success", "project_path", "total_files", "total_classes", "sensor_count", "error_message"]
    [("graph", PartWidens Graph.Widens), ("flows", ItemsWiden Flow.Widens),
      ("issues", ItemsWiden Issue.Widens)]

theorem Report.widens_self (r : Report) : Report.Widens r.toJson r.toJson :=
  .self (by simp) (by
    simp [PartWidens.self Graph.widens_self, ItemsWiden.self Flow.widens_self,
      ItemsWiden.self Issue.widens_self])

theorem Report.recovers (fresh : FreshIds) (r : Report) :
    Recovers Report.Widens (Report.ofJson fresh) r.toJson r := by
  intro wide hWidens
  obtain ⟨members, rfl, hPlain, hNested⟩ := hWidens.exists_members
  obtain ⟨graph, hGraph, hWiderGraph⟩ := hNested _ (.head _) _ rfl
  obtain ⟨flows, hFlows, hWiderFlows⟩ := hNested _ (.tail _ (.head _)) _ rfl
  obtain ⟨issues, hIssues, hWiderIssues⟩ := hNested _ (.tail _ (.tail _ (.head _))) _ rfl
  have hReadGraph := recovers_part (Graph.recovers fresh) (fun _ => ⟨_, _, rfl⟩) r.graph graph
    hWiderGraph
  have hReadFlows := recovers_list Flow.recovers r.flows flows hWiderFlows
  have hReadIssues := recovers_indexed (fun pos => Issue.recovers (fresh.issue pos)) r.issues issues
    hWiderIssues
  simp [Report.ofJson, required, defaulted, hPlain, member?, hGraph, hReadGraph, hFlows, hReadFlows,
    hIssues, hReadIssues]

/-- Every report, every class with its methods and fields, and every entry point is read off the
document written for it as it was, and so it is if members with other names have been put into any
object of the document. -/
theorem documents_read_back :
    (∀ (fresh : FreshIds) (report : Report),
      Report.ofJson fresh report.toJson = .ok report ∧
        ∀ wide, Report.Widens report.toJson wide → Report.ofJson fresh wide = .ok report) ∧
    (∀ c : ClassSymbol,
      ClassSymbol.ofJson c.toJson = .ok c ∧
        ∀ wide, ClassSymbol.Widens c.toJson wide → ClassSymbol.ofJson wide = .ok c) ∧
    (∀ entry : EntryPoint,
      EntryPoint.ofJson entry.toJson = .ok entry ∧
        ∀ wide, EntryPoint.Widens entry.toJson wide → EntryPoint.ofJson wide = .ok entry) := by
  refine ⟨fun fresh report => ?_, fun c => ?_, fun entry => ?_⟩
  · exact ⟨report.recovers fresh _ report.widens_self, report.recovers fresh⟩
  · exact ⟨c.recovers _ c.widens_self, c.recovers⟩
  · exact ⟨entry.recovers _ entry.widens_self, entry.recovers⟩

end SensorFlow
