import Mathlib.Logic.Relation
import RelayPool.Proofs.Config.UnknownKeys
import RelayPool.Proofs.Document.Lookup

/-!
# Entries that do not matter

Unknown keys, null settings and the order of entries have no part in what is
decoded: without them a document is the same configuration, or is refused with
the same fault.  Only an unknown key with too many digits to be shown matters,
as it cannot be reported.
-/

namespace RelayPool.Config

open Log (Reported)
open Document (lookup? names)

/-- A change to a mapping with the known names: an unknown key goes, of those that
may go, or a null setting, or the entries change places. -/
inductive Tidied (removable : Document → Prop) (known : List String) :
    Entries → Entries → Prop
  | unknown (before after : Entries) {key value : Document}
      (unknown : isKnown known key = false) (may : removable key) :
      Tidied removable known (before ++ (key, value) :: after) (before ++ after)
  | null (before after : Entries) {name : String} (isKnown : name ∈ known)
      (once : (names (before ++ (.text name, .null) :: after)).Nodup) :
      Tidied removable known (before ++ (.text name, .null) :: after) (before ++ after)
  | order {entries edited : Entries} (once : (names entries).Nodup)
      (same : entries.Perm edited) : Tidied removable known entries edited

/-- A change to one of the mappings of a document: the document itself, a section,
or a node. -/
inductive Edited (removable : Document → Prop) : Document → Document → Prop
  | document {entries edited : Entries} (tidied : Tidied removable topLevelKeys entries edited) :
      Edited removable (.map entries) (.map edited)
  | part (before after : Entries) {inner tidy : Entries} {name : String}
      {known : List String} (isSection : sectionKeys.lookup name = some known)
      (tidied : Tidied removable known inner tidy) :
      Edited removable (.map (before ++ (.text name, .map inner) :: after))
        (.map (before ++ (.text name, .map tidy) :: after))
  | node (before after : Entries) (front back : List Document) {inner tidy : Entries}
      (tidied : Tidied removable nodeKeys inner tidy) :
      Edited removable
        (.map (before ++ (.text "nodes", .list (front ++ .map inner :: back)) :: after))
        (.map (before ++ (.text "nodes", .list (front ++ .map tidy :: back)) :: after))

/-- Two values of a setting that leave it as it is, or open. -/
inductive SameSetting : Option Document → Option Document → Prop
  | same (value : Option Document) : SameSetting value value
  | opened : SameSetting (some .null) none

/-- What a change to a document makes of the value under a name. -/
inductive EditedValue (removable : Document → Prop) (name : String) :
    Option Document → Option Document → Prop
  | setting {value edited : Option Document} (same : SameSetting value edited) :
      EditedValue removable name value edited
  | part {inner tidy : Entries} {known : List String}
      (isSection : sectionKeys.lookup name = some known)
      (tidied : Tidied removable known inner tidy) :
      EditedValue removable name (some (.map inner)) (some (.map tidy))
  | node {front back : List Document} {inner tidy : Entries} (isNodes : name = "nodes")
      (tidied : Tidied removable nodeKeys inner tidy) :
      EditedValue removable name (some (.list (front ++ .map inner :: back)))
        (some (.list (front ++ .map tidy :: back)))

/-- A key that may be removed has too many digits to be shown. -/
def HidesKey (removable : Document → Prop) : Prop :=
  ∃ key, removable key ∧ key.plainText? = none

/-- An outcome before and after changes to a document.  They are the same unless
the first is a fault because of a removed key that could not be shown. -/
def SameUnless (hidden : Prop) {α : Type} (outcome edited : Except DecodeFault α) : Prop :=
  edited = outcome ∨ outcome = .error .tooManyDigits ∧ hidden

namespace SameUnless

variable {hidden : Prop} {α β : Type}

theorem of_eq {outcome edited : Except DecodeFault α} (same : edited = outcome) :
    SameUnless hidden outcome edited :=
  .inl same

theorem trans {outcome edited last : Except DecodeFault α}
    (first : SameUnless hidden outcome edited) (second : SameUnless hidden edited last) :
    SameUnless hidden outcome last := by
  rcases first with rfl | refused
  · exact second
  · exact .inr refused

theorem outcome_bind {reported edited : Reported DecodeFault α}
    {next nextEdited : α → Reported DecodeFault β}
    (first : SameUnless hidden reported.outcome edited.outcome)
    (later : ∀ result, SameUnless hidden (next result).outcome (nextEdited result).outcome) :
    SameUnless hidden (reported >>= next).outcome (edited >>= nextEdited).outcome := by
  rw [Reported.outcome_bind, Reported.outcome_bind]
  rcases first with same | ⟨refused, isHidden⟩
  · rw [same]
    cases reported.outcome with
    | ok result => exact later result
    | error fault => exact .of_eq rfl
  · rw [refused]
    exact .inr ⟨rfl, isHidden⟩

end SameUnless

section Mappings

variable {removable : Document → Prop} {known : List String} {entries edited : Entries}

theorem ne_text_of_unknown {key : Document} {name : String} (unknown : isKnown known key = false)
    (member : name ∈ known) : key ≠ .text name := by
  rintro rfl
  have expected : isKnown known (.text name) = true := List.contains_iff_mem.mpr member
  rw [expected] at unknown
  cases unknown

/-- No setting is lost by a change to its mapping. -/
theorem Tidied.sameSetting (tidied : Tidied removable known entries edited) {name : String}
    (member : name ∈ known) : SameSetting (lookup? name entries) (lookup? name edited) := by
  cases tidied with
  | unknown _ _ unknown _ =>
      rw [Document.lookup?_append, Document.lookup?_append,
        Document.lookup?_cons_of_ne (ne_text_of_unknown unknown member)]
      exact .same _
  | @null before after removed _ once =>
      by_cases here : removed = name
      · subst here
        have found : lookup? removed (before ++ (.text removed, .null) :: after) = some .null :=
          (Document.lookup?_eq_some_iff once).mpr (by simp)
        have absent : removed ∉ names (before ++ after) := by
          rw [Document.names_append, Document.names_text_cons, List.nodup_middle,
            ← Document.names_append, List.nodup_cons] at once
          exact once.1
        rw [found, Document.lookup?_eq_none_of_not_mem absent]
        exact .opened
      · have different : Document.text removed ≠ .text name := by simpa using here
        rw [Document.lookup?_append, Document.lookup?_append,
          Document.lookup?_cons_of_ne different]
        exact .same _
  | order once same =>
      rw [Document.lookup?_perm once same]
      exact .same _

/-- An entry with a key that has to be reported and cannot be shown. -/
def hides (known : List String) (entry : Document × Document) : Bool :=
  !isKnown known entry.1 && entry.1.plainText?.isNone

theorem outcome_reportUnknown (known : List String) (scope : String) (entries : Entries) :
    (reportUnknown known scope entries).outcome =
      if entries.any (hides known) then .error .tooManyDigits else .ok () := by
  induction entries with
  | nil => rfl
  | cons entry rest ih =>
      obtain ⟨key, value⟩ := entry
      rw [reportUnknown, List.any_cons]
      by_cases expected : isKnown known key
      · have shown : hides known (key, value) = false := by simp [hides, expected]
        rw [if_pos expected, shown, Bool.false_or, ih]
      · rw [if_neg expected]
        cases shown : key.plainText? with
        | none =>
            have hidden : hides known (key, value) = true := by simp [hides, expected, shown]
            rw [hidden]
            rfl
        | some name =>
            have notHidden : hides known (key, value) = false := by
              simp [hides, shown]
            rw [notHidden, Bool.false_or, ← ih]
            rfl

theorem any_hides_of_shown {before after : Entries} {entry : Document × Document}
    (shown : hides known entry = false) :
    (before ++ entry :: after).any (hides known) = (before ++ after).any (hides known) := by
  rw [List.any_append, List.any_cons, shown, Bool.false_or, List.any_append]

/-- A change to a mapping lets a key go unreported only if that key could not be
reported. -/
theorem Tidied.reported (tidied : Tidied removable known entries edited) (scope : String) :
    SameUnless (HidesKey removable) (reportUnknown known scope entries).outcome
      (reportUnknown known scope edited).outcome := by
  rw [outcome_reportUnknown, outcome_reportUnknown]
  cases tidied with
  | @unknown before after key value unknown may =>
      cases hidden : hides known (key, value) with
      | false => exact .of_eq (by rw [any_hides_of_shown hidden])
      | true =>
          have unshown : key.plainText? = none := by simpa [hides, unknown] using hidden
          exact .inr ⟨by simp [hidden], key, may, unshown⟩
  | @null before after name member once =>
      have expected : isKnown known (.text name) = true := List.contains_iff_mem.mpr member
      have shown : hides known (.text name, .null) = false := by simp [hides, expected]
      exact .of_eq (by rw [any_hides_of_shown shown])
  | order once same => exact .of_eq (by rw [same.any_eq])

end Mappings

section Readers

variable {removable : Document → Prop} {scope : String} {entries edited : Entries}

/-- A reader takes a null setting for an open one. -/
def ReadsNullAsOpen {α : Type} (read : String → Option Document → Except DecodeFault α) :
    Prop :=
  ∀ key, read key (some .null) = read key none

theorem SameSetting.read_eq {α : Type}
    {read : String → Option Document → Except DecodeFault α} (opens : ReadsNullAsOpen read)
    {value edited : Option Document} (same : SameSetting value edited) (key : String) :
    read key edited = read key value := by
  cases same with
  | same value => rfl
  | opened => exact (opens key).symm

theorem asText_null : ReadsNullAsOpen asText := fun _ => rfl

theorem asInt_null : ReadsNullAsOpen asInt := fun _ => rfl

theorem asPort_null : ReadsNullAsOpen asPort := fun _ => rfl

theorem asTruthValue_null : ReadsNullAsOpen asTruthValue := fun _ => rfl

theorem asDuration_null : ReadsNullAsOpen asDuration := fun _ => rfl

/-- The reader of a part of a document looks at its settings and nothing else. -/
def ReadsSettings {α : Type} (known : List String)
    (read : String → Entries → Except DecodeFault α) : Prop :=
  ∀ scope entries edited,
    (∀ name ∈ known, SameSetting (lookup? name entries) (lookup? name edited)) →
      read scope edited = read scope entries

theorem setting_congr {α : Type} {read : String → Option Document → Except DecodeFault α}
    (opens : ReadsNullAsOpen read) {name : String}
    (same : SameSetting (lookup? name entries) (lookup? name edited)) :
    setting read scope edited name = setting read scope entries name :=
  same.read_eq opens _

theorem listenerOfEntries_readsSettings : ReadsSettings listenerKeys listenerOfEntries := by
  intro scope entries edited same
  rw [listenerOfEntries, listenerOfEntries,
    setting_congr asText_null (same "address" (by decide)),
    setting_congr asPort_null (same "port" (by decide)),
    setting_congr asText_null (same "username" (by decide)),
    setting_congr asText_null (same "password" (by decide))]

theorem multiPortOfEntries_readsSettings : ReadsSettings multiPortKeys multiPortOfEntries := by
  intro scope entries edited same
  rw [multiPortOfEntries, multiPortOfEntries,
    setting_congr asText_null (same "address" (by decide)),
    setting_congr asPort_null (same "base_port" (by decide)),
    setting_congr asText_null (same "username" (by decide)),
    setting_congr asText_null (same "password" (by decide))]

theorem poolOfEntries_readsSettings : ReadsSettings poolKeys poolOfEntries := by
  intro scope entries edited same
  rw [poolOfEntries, poolOfEntries, setting_congr asText_null (same "mode" (by decide)),
    setting_congr asInt_null (same "failure_threshold" (by decide)),
    setting_congr asDuration_null (same "blacklist_duration" (by decide))]

theorem managementOfEntries_readsSettings :
    ReadsSettings managementKeys managementOfEntries := by
  intro scope entries edited same
  rw [managementOfEntries, managementOfEntries,
    setting_congr asTruthValue_null (same "enabled" (by decide)),
    setting_congr asText_null (same "listen" (by decide)),
    setting_congr asText_null (same "probe_target" (by decide))]

theorem nodeOfEntries_readsSettings : ReadsSettings nodeKeys nodeOfEntries := by
  intro scope entries edited same
  rw [nodeOfEntries, nodeOfEntries, setting_congr asText_null (same "name" (by decide)),
    setting_congr asText_null (same "uri" (by decide)),
    setting_congr asPort_null (same "port" (by decide)),
    setting_congr asText_null (same "username" (by decide)),
    setting_congr asText_null (same "password" (by decide))]

variable {α : Type} {known : List String}
  {read : String → Entries → Except DecodeFault α}

theorem readPart_map (known : List String) (read : String → Entries → Except DecodeFault α)
    (scope : String) (entries : Entries) :
    (readPart known read scope (some (.map entries))).outcome =
      (reportUnknown known scope entries >>= fun _ =>
        Reported.ofExcept (read scope entries)).outcome := by
  simp only [readPart, readSection, asEntries, Reported.outcome_bind,
    Reported.outcome_ofExcept, Reported.outcome_pure]
  cases (reportUnknown known scope entries).outcome <;> rfl

/-- Reading a part of a document after a change to it. -/
theorem Tidied.partRead (tidied : Tidied removable known entries edited)
    (reads : ReadsSettings known read) (scope : String) :
    SameUnless (HidesKey removable)
      (readPart known read scope (some (.map entries))).outcome
      (readPart known read scope (some (.map edited))).outcome := by
  rw [readPart_map, readPart_map]
  refine (tidied.reported scope).outcome_bind fun _ => .of_eq ?_
  exact reads scope entries edited fun name member => tidied.sameSetting member

theorem readPart_null (known : List String) (read : String → Entries → Except DecodeFault α)
    (scope : String) :
    readPart known read scope none = readPart known read scope (some .null) :=
  rfl

theorem EditedValue.partRead {name : String} {value edited : Option Document}
    (change : EditedValue removable name value edited) (reads : ReadsSettings known read)
    (isSection : sectionKeys.lookup name = some known) :
    SameUnless (HidesKey removable) (readPart known read name value).outcome
      (readPart known read name edited).outcome := by
  cases change with
  | setting same =>
      cases same with
      | same => exact .of_eq rfl
      | opened => exact .of_eq (by rw [readPart_null])
  | part isSectionToo tidied =>
      obtain rfl := Option.some.inj (isSection.symm.trans isSectionToo)
      exact tidied.partRead reads name
  | node isNodes _ =>
      subst isNodes
      cases isSection

theorem EditedValue.sameSetting {name : String} {value edited : Option Document}
    (change : EditedValue removable name value edited)
    (noSection : sectionKeys.lookup name = none) (notNodes : name ≠ "nodes") :
    SameSetting value edited := by
  cases change with
  | setting same => exact same
  | part isSection _ =>
      rw [noSection] at isSection
      cases isSection
  | node isNodes _ => exact absurd isNodes notNodes

/-- Reading the nodes after a change to one of them. -/
theorem Tidied.nodesRead (tidied : Tidied removable nodeKeys entries edited)
    (front back : List Document) (index : Nat) :
    SameUnless (HidesKey removable)
      (readNodes index (front ++ .map entries :: back)).outcome
      (readNodes index (front ++ .map edited :: back)).outcome := by
  induction front generalizing index with
  | nil =>
      have first := tidied.partRead nodeOfEntries_readsSettings (nodeKey index)
      exact first.outcome_bind fun _ => .of_eq rfl
  | cons item rest ih =>
      have first : SameUnless (HidesKey removable)
          (readPart nodeKeys nodeOfEntries (nodeKey index) (some item)).outcome _ := .of_eq rfl
      refine first.outcome_bind fun node => ?_
      exact (ih (index + 1)).outcome_bind fun _ => .of_eq rfl

end Readers

section Documents

variable {removable : Document → Prop} {entries edited : Entries} {document last : Document}

/-- Reading the list of nodes, and what follows, after a change to the list. -/
theorem EditedValue.itemsRead {α : Type} {value edited : Option Document}
    {next nextEdited : List Node → Reported DecodeFault α}
    (change : EditedValue removable "nodes" value edited)
    (later : ∀ nodes,
      SameUnless (HidesKey removable) (next nodes).outcome (nextEdited nodes).outcome) :
    SameUnless (HidesKey removable)
      (Reported.ofExcept (asItems "nodes" value) >>= fun items =>
        readNodes 0 items >>= next).outcome
      (Reported.ofExcept (asItems "nodes" edited) >>= fun items =>
        readNodes 0 items >>= nextEdited).outcome := by
  cases change with
  | setting same =>
      have sameItems : asItems "nodes" edited = asItems "nodes" value := by
        cases same <;> rfl
      rw [sameItems]
      refine SameUnless.outcome_bind (.of_eq rfl) fun items => ?_
      exact SameUnless.outcome_bind (.of_eq rfl) later
  | part isSection _ => cases isSection
  | node _ tidied => exact (tidied.nodesRead _ _ 0).outcome_bind later

/-- A document reads the same after a change to the values in it. -/
theorem ofEntries_of_editedValues
    (reported : SameUnless (HidesKey removable)
      (reportUnknown topLevelKeys "" entries).outcome
      (reportUnknown topLevelKeys "" edited).outcome)
    (change : ∀ name ∈ topLevelKeys,
      EditedValue removable name (lookup? name entries) (lookup? name edited)) :
    SameUnless (HidesKey removable) (ofEntries entries).outcome (ofEntries edited).outcome := by
  have settingRead (name : String) (member : name ∈ topLevelKeys)
      (noSection : sectionKeys.lookup name = none) (notNodes : name ≠ "nodes") :
      setting asText "" edited name = setting asText "" entries name :=
    setting_congr asText_null ((change name member).sameSetting noSection notNodes)
  refine reported.outcome_bind fun _ => ?_
  refine ((change "listener" (by decide)).partRead listenerOfEntries_readsSettings
    rfl).outcome_bind fun listener => ?_
  refine ((change "multi_port" (by decide)).partRead multiPortOfEntries_readsSettings
    rfl).outcome_bind fun multiPort => ?_
  refine ((change "pool" (by decide)).partRead poolOfEntries_readsSettings
    rfl).outcome_bind fun pool => ?_
  refine ((change "management" (by decide)).partRead managementOfEntries_readsSettings
    rfl).outcome_bind fun management => ?_
  refine (change "nodes" (by decide)).itemsRead fun nodes => ?_
  rw [settingRead "mode" (by decide) rfl (by decide),
    settingRead "nodes_file" (by decide) rfl (by decide),
    settingRead "log_level" (by decide) rfl (by decide)]
  exact .of_eq rfl

/-- What a change to a document makes of the values in it. -/
theorem editedValue_of_replaced {before after : Entries} {name : String}
    {value replaced : Document}
    (change : EditedValue removable name (some value) (some replaced)) (other : String) :
    EditedValue removable other (lookup? other (before ++ (.text name, value) :: after))
      (lookup? other (before ++ (.text name, replaced) :: after)) := by
  rw [Document.lookup?_append, Document.lookup?_append]
  cases lookup? other before with
  | some first => exact .setting (.same _)
  | none =>
      by_cases here : name = other
      · subst here
        rw [Document.lookup?_cons_self, Document.lookup?_cons_self]
        exact change
      · have different : Document.text name ≠ .text other := by simpa using here
        rw [Document.lookup?_cons_of_ne different, Document.lookup?_cons_of_ne different]
        exact .setting (.same _)

theorem outcome_reportUnknown_of_replaced {before after : Entries} {key value replaced : Document}
    (known : List String) (scope : String) :
    (reportUnknown known scope (before ++ (key, replaced) :: after)).outcome =
      (reportUnknown known scope (before ++ (key, value) :: after)).outcome := by
  simp only [outcome_reportUnknown, List.any_append, List.any_cons, hides]

/-- A document is decoded as before after one change to it. -/
theorem Edited.decoded (change : Edited removable document last) :
    SameUnless (HidesKey removable) (ofDocument document).outcome (ofDocument last).outcome := by
  cases change with
  | document tidied =>
      exact ofEntries_of_editedValues (tidied.reported "") fun name member =>
        .setting (tidied.sameSetting member)
  | part _ _ isSection tidied =>
      exact ofEntries_of_editedValues (.of_eq (outcome_reportUnknown_of_replaced _ _))
        fun name _ => editedValue_of_replaced (.part isSection tidied) name
  | node _ _ _ _ tidied =>
      exact ofEntries_of_editedValues (.of_eq (outcome_reportUnknown_of_replaced _ _))
        fun name _ => editedValue_of_replaced (.node rfl tidied) name

/-- A document is decoded as before after any number of changes to it. -/
theorem sameUnless_of_edits (edits : Relation.ReflTransGen (Edited removable) document last) :
    SameUnless (HidesKey removable) (ofDocument document).outcome (ofDocument last).outcome := by
  induction edits with
  | refl => exact .of_eq rfl
  | tail _ change ih => exact ih.trans change.decoded

/-- Unknown keys that can be shown, null settings and the order of entries have no
part in what is decoded, and neither have other unknown keys unless decoding ends
at an integer with too many digits.  A document that is decoded gives one warning
for each of its unknown keys. -/
theorem inert_and_warned (document : Document) :
    (∀ edited, Relation.ReflTransGen (Edited fun key => key.plainText? ≠ none) document edited →
        (ofDocument edited).outcome = (ofDocument document).outcome) ∧
      (∀ edited, Relation.ReflTransGen (Edited fun _ => True) document edited →
        (ofDocument document).outcome ≠ .error .tooManyDigits →
          (ofDocument edited).outcome = (ofDocument document).outcome) ∧
      ∀ config, (ofDocument document).outcome = .ok config →
        List.Forall₂ Warns (unknownKeys document) (ofDocument document).records := by
  refine ⟨?_, ?_, ofDocument_warnsOf document⟩
  · intro edited edits
    rcases sameUnless_of_edits edits with same | ⟨-, key, shown, hidden⟩
    · exact same
    · exact absurd hidden shown
  · intro edited edits shown
    rcases sameUnless_of_edits edits with same | ⟨refused, -⟩
    · exact same
    · exact absurd refused shown

/-- A document with unknown keys, and with a user name that is null. -/
def strayDocument : Document :=
  .map
    [(.text "listener", .map [(.text "username", .null), (.text "port", .int 80)]),
      (.text "nodes",
        .list [.null, .map [(.text "uri", .text "s://h:1"), (.bool true, .list [])]]),
      (.text "log", .text "x"), (.null, .int 7)]

/-- The document without the null and one of the unknown keys, in another order. -/
def tidyDocument : Document :=
  .map
    [(.text "log", .text "x"), (.null, .int 7),
      (.text "listener", .map [(.text "port", .int 80)]),
      (.text "nodes", .list [.null, .map [(.text "uri", .text "s://h:1")]])]

theorem edits_strayDocument {removable : Document → Prop} (may : removable (.bool true)) :
    Relation.ReflTransGen (Edited removable) strayDocument tidyDocument := by
  have listener : Tidied removable listenerKeys
      [(.text "username", .null), (.text "port", .int 80)] [(.text "port", .int 80)] :=
    .null [] _ (by decide) (by decide)
  have node : Tidied removable nodeKeys
      [(.text "uri", .text "s://h:1"), (.bool true, .list [])]
      [(.text "uri", .text "s://h:1")] :=
    .unknown [_] [] rfl may
  refine .head (.part [] _ rfl listener) (.head (.node [_] _ [_] [] node) (.single ?_))
  exact .document (.order (by decide) (@List.perm_append_comm _ [_, _] [_, _]))

theorem inert_and_warned_strayDocument :
    (∃ config, (ofDocument strayDocument).outcome = .ok config) ∧
      Relation.ReflTransGen (Edited fun _ => True) strayDocument tidyDocument ∧
      (ofDocument tidyDocument).outcome = (ofDocument strayDocument).outcome ∧
      List.Forall₂ Warns
        [⟨"", .text "log"⟩, ⟨"", .null⟩, ⟨"nodes[1]", .bool true⟩]
        (ofDocument strayDocument).records := by
  obtain ⟨ofShown, -, warned⟩ := inert_and_warned strayDocument
  have shown : Document.plainText? (.bool true) ≠ none := by rintro ⟨⟩
  refine ⟨⟨_, rfl⟩, edits_strayDocument trivial, ?_, warned _ rfl⟩
  exact ofShown _ (edits_strayDocument shown)

theorem intText?_ten_pow {count : Nat} (long : Number.digitLimit ≤ count) :
    Number.intText? (Nat.pow 10 count) = none := by
  have enough (limit : Nat) (within : limit ≤ count) : ¬ Nat.pow 10 count < Nat.pow 10 limit :=
    Nat.not_lt.mpr (Nat.pow_le_pow_right (by decide) within)
  rw [Number.intText?, Int.natAbs_natCast, if_neg (enough _ long)]

/-- A document with nothing but a node. -/
def plainDocument : Document :=
  .map [(.text "nodes", .list [.map [(.text "uri", .text "s://h:1")]])]

/-- The document with an integer among its keys. -/
def numberedDocument (number : Int) : Document :=
  .map
    [(.int number, .null), (.text "nodes", .list [.map [(.text "uri", .text "s://h:1")]])]

theorem edited_numberedDocument (number : Int) :
    Edited (fun _ => True) (numberedDocument number) plainDocument :=
  .document (.unknown [] _ rfl trivial)

theorem refused_numberedDocument {number : Int} (long : Number.intText? number = none) :
    (ofDocument (numberedDocument number)).outcome = .error .tooManyDigits := by
  have unshown : (Document.int number).plainText? = none := long
  rw [numberedDocument, ofDocument, ofEntries, reportUnknown, if_neg (by rintro ⟨⟩), unshown]
  rfl

/-- An unknown key with one digit too many is not skipped. -/
theorem not_inert_longKey :
    ¬ ∀ edited, Relation.ReflTransGen (Edited fun _ => True)
        (numberedDocument (Nat.pow 10 Number.digitLimit)) edited →
      (ofDocument edited).outcome =
        (ofDocument (numberedDocument (Nat.pow 10 Number.digitLimit))).outcome := by
  intro inert
  have same := inert _ (.single (edited_numberedDocument _))
  rw [refused_numberedDocument (intText?_ten_pow (Nat.le_refl _))] at same
  cases same

end Documents

end RelayPool.Config
