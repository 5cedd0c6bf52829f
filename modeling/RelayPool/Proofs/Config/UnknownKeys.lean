import Mathlib.Data.List.Forall2
import RelayPool.Proofs.Config.SchemaChecks

/-!
# Unknown keys

A key that is no setting of its mapping is reported by a warning and skipped.
When a document is decoded, the records are these warnings and nothing else:
one for each unknown key, mapping by mapping in the order in which the mappings
are read, and in each of them in the order of its keys.
-/

namespace RelayPool.Config

open Log (Record Reported)

/-- The sections of a document with the names of their settings. -/
def sectionKeys : List (String × List String) :=
  [("listener", listenerKeys), ("multi_port", multiPortKeys), ("pool", poolKeys),
    ("management", managementKeys)]

/-- A key that is not known, and the key of the mapping in which it stands. -/
structure UnknownKey where
  scope : String
  key : Document

/-- The unknown keys of a mapping. -/
def unknownIn (known : List String) (scope : String) (entries : Entries) :
    List UnknownKey :=
  (entries.filter fun entry => !isKnown known entry.1).map fun entry => ⟨scope, entry.1⟩

/-- The unknown keys of the nodes from the one with the given index on. -/
def unknownInNodes (index : Nat) : List Document → List UnknownKey
  | [] => []
  | item :: rest =>
      unknownIn nodeKeys (nodeKey index) (entriesOf (some item)) ++
        unknownInNodes (index + 1) rest

/-- The unknown keys of a document: its own, those of its sections, and those of
its nodes. -/
def unknownKeys : Document → List UnknownKey
  | .map entries =>
      unknownIn topLevelKeys "" entries ++
        (sectionKeys.flatMap fun part =>
          unknownIn part.2 part.1 (entriesOf (Document.lookup? part.1 entries))) ++
        unknownInNodes 0 (itemsOf (Document.lookup? "nodes" entries))
  | _ => []

/-- The warning about an unknown key names it below the key of its mapping. -/
inductive Warns : UnknownKey → Record → Prop
  | warning {scope name : String} {key : Document} (shown : key.plainText? = some name) :
      Warns ⟨scope, key⟩
        ⟨.config, .warning, "Ignoring unknown configuration key: " ++ dotted scope name⟩

/-- If a computation succeeds, its records are the warnings about some unknown
keys, one for each. -/
def WarnsOf {α : Type} (unknown : List UnknownKey) (reported : Reported DecodeFault α) :
    Prop :=
  ∀ result, reported.outcome = .ok result → List.Forall₂ Warns unknown reported.records

namespace WarnsOf

variable {α β : Type} {first second : List UnknownKey}

theorem ofExcept (outcome : Except DecodeFault α) : WarnsOf [] (.ofExcept outcome) :=
  fun _ _ => .nil

theorem bind {reported : Reported DecodeFault α} {next : α → Reported DecodeFault β}
    (firstWarns : WarnsOf first reported)
    (nextWarns : ∀ result, reported.outcome = .ok result → WarnsOf second (next result)) :
    WarnsOf (first ++ second) (reported >>= next) := by
  intro last done
  obtain ⟨result, ended, doneToo⟩ := Reported.outcome_bind_eq_ok_iff.mp done
  rw [Reported.records_bind, ended]
  exact List.rel_append (firstWarns result ended) (nextWarns result ended last doneToo)

/-- A computation without records leaves every warning to what comes after. -/
theorem after {outcome : Except DecodeFault α} {next : α → Reported DecodeFault β}
    (nextWarns : ∀ result, outcome = .ok result → WarnsOf second (next result)) :
    WarnsOf second (.ofExcept outcome >>= next) :=
  (ofExcept outcome).bind nextWarns

theorem before {reported : Reported DecodeFault α} {next : α → Reported DecodeFault β}
    (firstWarns : WarnsOf first reported) (nextWarns : ∀ result, WarnsOf [] (next result)) :
    WarnsOf first (reported >>= next) := by
  have both := firstWarns.bind fun result _ => nextWarns result
  rwa [List.append_nil] at both

end WarnsOf

section Mappings

variable {known : List String} {scope : String} {entries : Entries}

theorem reportUnknown_warnsOf (known : List String) (scope : String) (entries : Entries) :
    WarnsOf (unknownIn known scope entries) (reportUnknown known scope entries) := by
  induction entries with
  | nil => exact fun _ _ => .nil
  | cons entry rest ih =>
      obtain ⟨key, value⟩ := entry
      rw [reportUnknown, unknownIn]
      by_cases expected : isKnown known key
      · rw [if_pos expected, List.filter_cons_of_neg (by simp [expected])]
        exact ih
      · rw [if_neg expected, List.filter_cons_of_pos (by simp [expected]), List.map_cons]
        cases shown : key.plainText? with
        | none => rintro _ ⟨⟩
        | some name =>
            intro result done
            rw [Reported.records_bind]
            exact .cons (.warning shown) (ih result done)

theorem readSection_warnsOf (value : Option Document) :
    WarnsOf (unknownIn known scope (entriesOf value)) (readSection known scope value) := by
  apply WarnsOf.after
  intro entries read
  rw [entriesOf_of_asEntries read]
  exact (reportUnknown_warnsOf known scope entries).before fun _ => .ofExcept (.ok entries)

theorem readPart_warnsOf {α : Type} {read : String → Entries → Except DecodeFault α}
    (value : Option Document) :
    WarnsOf (unknownIn known scope (entriesOf value)) (readPart known read scope value) :=
  (readSection_warnsOf value).before fun _ => .ofExcept _

theorem readNodes_warnsOf (index : Nat) (items : List Document) :
    WarnsOf (unknownInNodes index items) (readNodes index items) := by
  induction items generalizing index with
  | nil => exact fun _ _ => .nil
  | cons item rest ih =>
      apply (readPart_warnsOf (some item)).bind
      intro node _
      exact (ih (index + 1)).before fun nodes => .ofExcept (.ok (node :: nodes))

/-- The warnings of a document that is decoded. -/
theorem ofDocument_warnsOf (document : Document) :
    WarnsOf (unknownKeys document) (ofDocument document) := by
  cases document with
  | map entries =>
      simp only [unknownKeys, sectionKeys, List.flatMap_cons, List.flatMap_nil,
        List.append_nil, List.append_assoc]
      apply (reportUnknown_warnsOf topLevelKeys "" entries).bind
      intro _ _
      apply (readPart_warnsOf _).bind
      intro listener _
      apply (readPart_warnsOf _).bind
      intro multiPort _
      apply (readPart_warnsOf _).bind
      intro pool _
      apply (readPart_warnsOf _).bind
      intro management _
      apply WarnsOf.after
      intro items read
      rw [itemsOf_of_asItems read]
      apply (readNodes_warnsOf 0 items).before
      intro nodes
      apply WarnsOf.after
      intro mode _
      apply WarnsOf.after
      intro nodesFile _
      apply WarnsOf.after
      intro logLevel _
      exact .ofExcept (.ok _)
  | _ => rintro _ ⟨⟩

end Mappings

end RelayPool.Config
