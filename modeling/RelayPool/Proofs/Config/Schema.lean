import RelayPool.Proofs.Config.Decoding

/-!
# The schema of configurations

What every setting of a document asks of its value, as a list of demands in the
order in which they are looked at: the sections with their settings, the nodes
one by one, and the settings of the document itself.  A setting that is absent
or null meets every demand.
-/

namespace RelayPool.Config

/-- The values of a kind.  A number counts as a text. -/
inductive IsOfKind : Kind → Document → Prop
  | mapping (entries : Entries) : IsOfKind .mapping (.map entries)
  | list (items : List Document) : IsOfKind .list (.list items)
  | text (value : String) : IsOfKind .text (.text value)
  | intText (value : Int) : IsOfKind .text (.int value)
  | floatText (value : Number.Binary64) : IsOfKind .text (.float value)
  | integer (value : Int) : IsOfKind .integer (.int value)
  | truthValue (value : Bool) : IsOfKind .truthValue (.bool value)

/-- What a setting may ask of its value. -/
inductive Requirement
  | kind (kind : Kind)
  | port
  | duration
  deriving DecidableEq, Repr

/-- The values that a requirement admits. -/
inductive Admits : Requirement → Document → Prop
  | null {requirement : Requirement} : Admits requirement .null
  | kind {kind : Kind} {document : Document} (isOfKind : IsOfKind kind document) :
      Admits (.kind kind) document
  | port {port : Int} (inRange : IsPort port) : Admits .port (.int port)
  | duration {document : Document} {span : TimeSpan}
      (accepted : Duration.ofDocument document = .ok span) : Admits .duration document

/-- A setting by its dotted key, what it asks for, and the value it has. -/
structure Demand where
  key : String
  requirement : Requirement
  value : Option Document

/-- A setting is absent or has a value that it admits. -/
def Demand.Met (demand : Demand) : Prop :=
  ∀ document ∈ demand.value, Admits demand.requirement document

/-- The fault that reports a setting whose value it does not admit. -/
inductive Blames : Demand → DecodeFault → Prop
  | kind {key : String} {kind : Kind} {document : Document} (given : document ≠ .null)
      (other : ¬ IsOfKind kind document) :
      Blames ⟨key, .kind kind, some document⟩ (.wrongKind key kind)
  | portKind {key : String} {document : Document} (given : document ≠ .null)
      (other : ¬ IsOfKind .integer document) :
      Blames ⟨key, .port, some document⟩ (.wrongKind key .integer)
  | portRange {key : String} {port : Int} (outside : ¬ IsPort port) :
      Blames ⟨key, .port, some (.int port)⟩ (.portOutOfRange key port)
  | duration {key : String} {document : Document} {fault : Duration.Fault}
      (given : document ≠ .null) (refused : Duration.ofDocument document = .error fault) :
      Blames ⟨key, .duration, some document⟩ (.duration key fault)

/-- The settings of a section by name. -/
abbrev SectionSchema := List (String × Requirement)

def listenerSchema : SectionSchema :=
  [("address", .kind .text), ("port", .port), ("username", .kind .text),
    ("password", .kind .text)]

def multiPortSchema : SectionSchema :=
  [("address", .kind .text), ("base_port", .port), ("username", .kind .text),
    ("password", .kind .text)]

def poolSchema : SectionSchema :=
  [("mode", .kind .text), ("failure_threshold", .kind .integer),
    ("blacklist_duration", .duration)]

def managementSchema : SectionSchema :=
  [("enabled", .kind .truthValue), ("listen", .kind .text), ("probe_target", .kind .text)]

def nodeSchema : SectionSchema :=
  [("name", .kind .text), ("uri", .kind .text), ("port", .port), ("username", .kind .text),
    ("password", .kind .text)]

/-- The entries of a value that is a mapping. -/
def entriesOf : Option Document → Entries
  | some (.map entries) => entries
  | _ => []

/-- The items of a value that is a list. -/
def itemsOf : Option Document → List Document
  | some (.list items) => items
  | _ => []

def settingDemands (key : String) (schema : SectionSchema) (entries : Entries) : List Demand :=
  schema.map fun setting =>
    ⟨key ++ "." ++ setting.1, setting.2, Document.lookup? setting.1 entries⟩

/-- A section itself, and then its settings. -/
def sectionDemands (key : String) (schema : SectionSchema) (value : Option Document) :
    List Demand :=
  ⟨key, .kind .mapping, value⟩ :: settingDemands key schema (entriesOf value)

/-- The nodes from the one with the given index on. -/
def nodeDemands (index : Nat) : List Document → List Demand
  | [] => []
  | item :: rest =>
      sectionDemands ("nodes[" ++ toString index ++ "]") nodeSchema (some item) ++
        nodeDemands (index + 1) rest

/-- All settings of a document in the order in which they are looked at. -/
def demands (entries : Entries) : List Demand :=
  let part (name : String) := Document.lookup? name entries
  sectionDemands "listener" listenerSchema (part "listener") ++
    sectionDemands "multi_port" multiPortSchema (part "multi_port") ++
    sectionDemands "pool" poolSchema (part "pool") ++
    sectionDemands "management" managementSchema (part "management") ++
    ⟨"nodes", .kind .list, part "nodes"⟩ :: nodeDemands 0 (itemsOf (part "nodes")) ++
    [⟨"mode", .kind .text, part "mode"⟩, ⟨"nodes_file", .kind .text, part "nodes_file"⟩,
      ⟨"log_level", .kind .text, part "log_level"⟩]

/-- A document is a mapping in which every setting is absent or has a value that
it admits. -/
def FollowsSchema (document : Document) : Prop :=
  ∃ entries, document = .map entries ∧ ∀ demand ∈ demands entries, demand.Met

/-- The report on a fault begins with the key of a setting. -/
def DecodeFault.Names (fault : DecodeFault) (key : String) : Prop :=
  ∃ reason, fault.message = "decode config: '" ++ key ++ "'" ++ reason

/-- The fault of the first setting of a document that is not met. -/
inductive FirstOffence : Document → DecodeFault → Prop
  | topLevel {document : Document} (noMapping : ∀ entries, document ≠ .map entries) :
      FirstOffence document .notMapping
  | setting {entries : Entries} {before after : List Demand} {demand : Demand}
      {fault : DecodeFault} (inOrder : demands entries = before ++ demand :: after)
      (met : ∀ earlier ∈ before, earlier.Met) (unmet : ¬ demand.Met)
      (blames : Blames demand fault) (names : fault.Names demand.key) :
      FirstOffence (.map entries) fault

section Blame

variable {demand : Demand} {fault : DecodeFault}

theorem Blames.unmet (blames : Blames demand fault) : ¬ demand.Met := by
  intro met
  cases blames with
  | kind given other =>
      cases met _ rfl with
      | null => exact given rfl
      | kind isOfKind => exact other isOfKind
  | portKind given other =>
      cases met _ rfl with
      | null => exact given rfl
      | port inRange => exact other (.integer _)
  | portRange outside =>
      cases met _ rfl with
      | port inRange => exact outside inRange
  | duration given refused =>
      cases met _ rfl with
      | null => exact given rfl
      | duration accepted =>
          rw [refused] at accepted
          cases accepted

theorem Blames.names (blames : Blames demand fault) : fault.Names demand.key := by
  have kindWords : "' must be " = "'" ++ " must be " := by decide
  have portWords : "' must be between 0 and " = "'" ++ " must be between 0 and " := by decide
  have durationWords : "': " = "'" ++ ": " := by decide
  cases blames with
  | @kind key kind =>
      refine ⟨" must be " ++ kind.phrase, ?_⟩
      unfold DecodeFault.message
      simp only [kindWords, String.append_assoc]
  | @portKind key =>
      refine ⟨" must be " ++ Kind.integer.phrase, ?_⟩
      unfold DecodeFault.message
      simp only [kindWords, String.append_assoc]
  | @portRange key port =>
      refine ⟨" must be between 0 and " ++ Number.intText maxPort ++ ", got " ++
        Number.intText port, ?_⟩
      unfold DecodeFault.message
      simp only [portWords, String.append_assoc]
  | @duration key document fault =>
      refine ⟨": " ++ fault.message, ?_⟩
      unfold DecodeFault.message
      simp only [durationWords, String.append_assoc]

theorem Blames.ne_tooManyDigits (blames : Blames demand fault) : fault ≠ .tooManyDigits := by
  cases blames <;> simp

end Blame

end RelayPool.Config
