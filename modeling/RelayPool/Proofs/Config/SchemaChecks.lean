import RelayPool.Proofs.Config.DigitFaults
import RelayPool.Proofs.Config.Loading
import RelayPool.Proofs.Config.Schema

/-!
# Documents that follow the schema

Decoding looks at the settings of a document in the order of the schema and
ends at the first that is not met.  Every reader looks at one demand, and the
demands of a longer reading are those of its parts in turn.
-/

namespace RelayPool.Config

open Log (Reported)

/-- An outcome of looking at some demands in turn: all are met, or the first that
is not is blamed.  Only an integer too long to be shown may come in between. -/
inductive Checked {α : Type} (demands : List Demand) : Except DecodeFault α → Prop
  | accepted {result : α} (met : ∀ demand ∈ demands, demand.Met) : Checked demands (.ok result)
  | refused {before after : List Demand} {demand : Demand} {fault : DecodeFault}
      (inOrder : demands = before ++ demand :: after)
      (met : ∀ earlier ∈ before, earlier.Met) (blames : Blames demand fault) :
      Checked demands (.error fault)
  | hidden : Checked demands (.error .tooManyDigits)

namespace Checked

variable {α β : Type} {first second : List Demand}

theorem ok (result : α) : Checked [] (.ok result) :=
  .accepted (List.forall_mem_nil _)

theorem singleton {demand : Demand} {fault : DecodeFault} (blames : Blames demand fault) :
    Checked [demand] (.error fault : Except DecodeFault α) := by
  have alone : [demand] = [] ++ demand :: [] := rfl
  exact .refused alone (List.forall_mem_nil _) blames

theorem of_met {demand : Demand} (met : demand.Met) (result : α) :
    Checked [demand] (.ok result) :=
  .accepted (List.forall_mem_singleton.mpr met)

theorem bind {outcome : Except DecodeFault α} {next : α → Except DecodeFault β}
    (firstChecked : Checked first outcome)
    (nextChecked : ∀ result, outcome = .ok result → Checked second (next result)) :
    Checked (first ++ second) (outcome >>= next) := by
  cases firstChecked with
  | @accepted result met =>
      change Checked _ (next result)
      generalize ended : next result = last
      have lastChecked := nextChecked result rfl
      rw [ended] at lastChecked
      cases lastChecked with
      | accepted metToo => exact .accepted (List.forall_mem_append.mpr ⟨met, metToo⟩)
      | @refused before after demand _ inOrder metToo blames =>
          have placed : first ++ second = (first ++ before) ++ demand :: after := by
            rw [inOrder, List.append_assoc]
          exact .refused placed (List.forall_mem_append.mpr ⟨met, metToo⟩) blames
      | hidden => exact .hidden
  | @refused before after demand _ inOrder met blames =>
      have placed : first ++ second = before ++ demand :: (after ++ second) := by
        rw [inOrder, List.append_assoc, List.cons_append]
      exact .refused placed met blames
  | hidden => exact .hidden

theorem outcome_bind {reported : Reported DecodeFault α} {next : α → Reported DecodeFault β}
    (firstChecked : Checked first reported.outcome)
    (nextChecked : ∀ result, reported.outcome = .ok result →
      Checked second (next result).outcome) :
    Checked (first ++ second) (reported >>= next).outcome := by
  have both := firstChecked.bind nextChecked
  rw [Reported.outcome_bind]
  cases ended : reported.outcome <;> rw [ended] at both <;> exact both

/-- Records alone leave every demand to what comes after them. -/
theorem outcome_after {reported : Reported DecodeFault α} {next : α → Reported DecodeFault β}
    (firstChecked : Checked [] reported.outcome)
    (nextChecked : ∀ result, reported.outcome = .ok result →
      Checked second (next result).outcome) :
    Checked second (reported >>= next).outcome :=
  firstChecked.outcome_bind nextChecked

theorem outcome_before {reported : Reported DecodeFault α}
    {next : α → Reported DecodeFault β} (firstChecked : Checked first reported.outcome)
    (nextChecked : ∀ result, Checked [] (next result).outcome) :
    Checked first (reported >>= next).outcome := by
  have both := firstChecked.outcome_bind fun result _ => nextChecked result
  rwa [List.append_nil] at both

theorem outcome_cons {demand : Demand} {reported : Reported DecodeFault α}
    {next : α → Reported DecodeFault β} (firstChecked : Checked [demand] reported.outcome)
    (nextChecked : ∀ result, reported.outcome = .ok result →
      Checked second (next result).outcome) :
    Checked (demand :: second) (reported >>= next).outcome :=
  firstChecked.outcome_bind nextChecked

end Checked

section Values

variable (key : String) (value : Option Document)

theorem met_none (requirement : Requirement) : Demand.Met ⟨key, requirement, none⟩ := by
  rintro document ⟨⟩

theorem met_some {requirement : Requirement} {document : Document}
    (admits : Admits requirement document) : Demand.Met ⟨key, requirement, some document⟩ := by
  rintro document ⟨⟩
  exact admits

theorem asEntries_checked : Checked [⟨key, .kind .mapping, value⟩] (asEntries key value) := by
  cases value with
  | none => exact .of_met (met_none key _) []
  | some document =>
      cases document with
      | null => exact .of_met (met_some key .null) []
      | map entries => exact .of_met (met_some key (.kind (.mapping entries))) entries
      | _ => exact .singleton (.kind (by rintro ⟨⟩) (by rintro ⟨⟩))

theorem asItems_checked : Checked [⟨key, .kind .list, value⟩] (asItems key value) := by
  cases value with
  | none => exact .of_met (met_none key _) []
  | some document =>
      cases document with
      | null => exact .of_met (met_some key .null) []
      | list items => exact .of_met (met_some key (.kind (.list items))) items
      | _ => exact .singleton (.kind (by rintro ⟨⟩) (by rintro ⟨⟩))

theorem asText_checked : Checked [⟨key, .kind .text, value⟩] (asText key value) := by
  cases value with
  | none => exact .of_met (met_none key _) ""
  | some document =>
      cases document with
      | null => exact .of_met (met_some key .null) ""
      | text value => exact .of_met (met_some key (.kind (.text value))) value
      | float value => exact .of_met (met_some key (.kind (.floatText value))) value.text
      | int value =>
          unfold asText
          simp only
          generalize Number.intText? value = shown
          cases shown with
          | none => exact .hidden
          | some text => exact .of_met (met_some key (.kind (.intText value))) text
      | _ => exact .singleton (.kind (by rintro ⟨⟩) (by rintro ⟨⟩))

theorem asInt_checked : Checked [⟨key, .kind .integer, value⟩] (asInt key value) := by
  cases value with
  | none => exact .of_met (met_none key _) 0
  | some document =>
      cases document with
      | null => exact .of_met (met_some key .null) 0
      | int value => exact .of_met (met_some key (.kind (.integer value))) value
      | _ => exact .singleton (.kind (by rintro ⟨⟩) (by rintro ⟨⟩))

theorem asPort_of_inRange {port : Int} (inRange : IsPort port) :
    asPort key (some (.int port)) = .ok port :=
  if_pos inRange

theorem asPort_of_outside {port : Int} (outside : ¬ IsPort port) :
    asPort key (some (.int port)) = .error (.portOutOfRange key port) ∨
      asPort key (some (.int port)) = .error .tooManyDigits := by
  have unread : asPort key (some (.int port)) =
      if (Number.intText? port).isSome then .error (.portOutOfRange key port)
      else .error .tooManyDigits := if_neg outside
  rw [unread]
  generalize (Number.intText? port).isSome = shown
  cases shown with
  | true => exact .inl rfl
  | false => exact .inr rfl

theorem asPort_checked : Checked [⟨key, .port, value⟩] (asPort key value) := by
  cases value with
  | none => exact .of_met (met_none key _) 0
  | some document =>
      cases document with
      | null => exact .of_met (met_some key .null) 0
      | int port =>
          by_cases inRange : IsPort port
          · rw [asPort_of_inRange key inRange]
            exact .of_met (met_some key (.port inRange)) port
          · rcases asPort_of_outside key inRange with refused | refused <;> rw [refused]
            · exact .singleton (.portRange inRange)
            · exact .hidden
      | _ => exact .singleton (.portKind (by rintro ⟨⟩) (by rintro ⟨⟩))

theorem asTruthValue_checked :
    Checked [⟨key, .kind .truthValue, value⟩] (asTruthValue key value) := by
  cases value with
  | none => exact .of_met (met_none key _) none
  | some document =>
      cases document with
      | null => exact .of_met (met_some key .null) none
      | bool value => exact .of_met (met_some key (.kind (.truthValue value))) (some value)
      | _ => exact .singleton (.kind (by rintro ⟨⟩) (by rintro ⟨⟩))

theorem asDuration_of_given {document : Document} (given : document ≠ .null) :
    asDuration key (some document) = (Duration.ofDocument document).mapError (.duration key) := by
  cases document with
  | null => exact absurd rfl given
  | _ => rfl

theorem asDuration_checked : Checked [⟨key, .duration, value⟩] (asDuration key value) := by
  cases value with
  | none => exact .of_met (met_none key _) TimeSpan.zero
  | some document =>
      by_cases given : document = .null
      · subst given
        exact .of_met (met_some key .null) TimeSpan.zero
      · rw [asDuration_of_given key given]
        cases read : Duration.ofDocument document with
        | ok span => exact .of_met (met_some key (.duration read)) span
        | error fault => exact .singleton (.duration given read)

end Values

section Sections

variable {scope : String} {entries : Entries}

/-- A setting of a section, and then the settings after it. -/
theorem checked_setting {α β : Type} {read : String → Option Document → Except DecodeFault α}
    {requirement : Requirement} {schema : SectionSchema} {next : α → Except DecodeFault β}
    (readChecked : ∀ key value, Checked [⟨key, requirement, value⟩] (read key value))
    (named : scope ≠ "") (name : String)
    (nextChecked : ∀ result, Checked (settingDemands scope schema entries) (next result)) :
    Checked (settingDemands scope ((name, requirement) :: schema) entries)
      (setting read scope entries name >>= next) := by
  have first := readChecked (dotted scope name) (Document.lookup? name entries)
  rw [dotted, if_neg named] at first
  have both := first.bind fun result _ => nextChecked result
  rw [setting, dotted, if_neg named]
  exact both

theorem listenerOfEntries_checked (named : scope ≠ "") :
    Checked (settingDemands scope listenerSchema entries) (listenerOfEntries scope entries) := by
  apply checked_setting asText_checked named
  intro address
  apply checked_setting asPort_checked named
  intro port
  apply checked_setting asText_checked named
  intro username
  apply checked_setting asText_checked named
  intro password
  exact .ok _

theorem multiPortOfEntries_checked (named : scope ≠ "") :
    Checked (settingDemands scope multiPortSchema entries)
      (multiPortOfEntries scope entries) := by
  apply checked_setting asText_checked named
  intro address
  apply checked_setting asPort_checked named
  intro basePort
  apply checked_setting asText_checked named
  intro username
  apply checked_setting asText_checked named
  intro password
  exact .ok _

theorem poolOfEntries_checked (named : scope ≠ "") :
    Checked (settingDemands scope poolSchema entries) (poolOfEntries scope entries) := by
  apply checked_setting asText_checked named
  intro mode
  apply checked_setting asInt_checked named
  intro failureThreshold
  apply checked_setting asDuration_checked named
  intro blacklistDuration
  exact .ok _

theorem managementOfEntries_checked (named : scope ≠ "") :
    Checked (settingDemands scope managementSchema entries)
      (managementOfEntries scope entries) := by
  apply checked_setting asTruthValue_checked named
  intro enabled
  apply checked_setting asText_checked named
  intro listen
  apply checked_setting asText_checked named
  intro probeTarget
  exact .ok _

theorem nodeOfEntries_checked (named : scope ≠ "") :
    Checked (settingDemands scope nodeSchema entries) (nodeOfEntries scope entries) := by
  apply checked_setting asText_checked named
  intro name
  apply checked_setting asText_checked named
  intro uri
  apply checked_setting asPort_checked named
  intro port
  apply checked_setting asText_checked named
  intro username
  apply checked_setting asText_checked named
  intro password
  exact .ok _

/-- An unknown key is reported and asks for nothing. -/
theorem reportUnknown_checked (known : List String) :
    Checked [] (reportUnknown known scope entries).outcome := by
  induction entries with
  | nil => exact .ok ()
  | cons entry rest ih =>
      obtain ⟨key, value⟩ := entry
      rw [reportUnknown]
      split
      · exact ih
      · split
        · exact .hidden
        · exact .outcome_after (.ok ()) fun _ _ => ih

theorem entriesOf_of_asEntries {key : String} {value : Option Document}
    (read : asEntries key value = .ok entries) : entriesOf value = entries := by
  unfold asEntries at read
  split at read <;> cases read <;> rfl

theorem itemsOf_of_asItems {key : String} {value : Option Document} {items : List Document}
    (read : asItems key value = .ok items) : itemsOf value = items := by
  unfold asItems at read
  split at read <;> cases read <;> rfl

/-- A section is looked at before its settings. -/
theorem readPart_checked {α : Type} {read : String → Entries → Except DecodeFault α}
    {schema : SectionSchema} (known : List String)
    (readChecked : ∀ {entries}, Checked (settingDemands scope schema entries)
      (read scope entries)) (value : Option Document) :
    Checked (sectionDemands scope schema value) (readPart known read scope value).outcome := by
  have sectionChecked :
      Checked [⟨scope, .kind .mapping, value⟩] (readSection known scope value).outcome := by
    apply Checked.outcome_cons (asEntries_checked scope value)
    intro entries _
    exact .outcome_after (reportUnknown_checked known) fun _ _ => .ok entries
  apply Checked.outcome_cons sectionChecked
  intro entries done
  rw [entriesOf_of_asEntries (asEntries_of_readSection done)]
  exact readChecked

theorem nodeKey_ne_empty (index : Nat) : nodeKey index ≠ "" := by
  intro empty
  have length := congrArg String.length empty
  simp [nodeKey] at length

theorem readNodes_checked (index : Nat) (items : List Document) :
    Checked (nodeDemands index items) (readNodes index items).outcome := by
  induction items generalizing index with
  | nil => exact .ok []
  | cons item rest ih =>
      have first := readPart_checked nodeKeys (nodeOfEntries_checked (nodeKey_ne_empty index))
        (some item)
      apply first.outcome_bind
      intro node _
      exact (ih (index + 1)).outcome_before fun nodes => .ok (node :: nodes)

/-- A document is looked at in the order of the schema. -/
theorem ofEntries_checked : Checked (demands entries) (ofEntries entries).outcome := by
  have listenerNamed : "listener" ≠ "" := by decide
  have multiPortNamed : "multi_port" ≠ "" := by decide
  have poolNamed : "pool" ≠ "" := by decide
  have managementNamed : "management" ≠ "" := by decide
  simp only [demands, List.append_assoc, List.cons_append]
  apply Checked.outcome_after (reportUnknown_checked topLevelKeys)
  intro _ _
  apply Checked.outcome_bind
    (readPart_checked listenerKeys (listenerOfEntries_checked listenerNamed) _)
  intro listener _
  apply Checked.outcome_bind
    (readPart_checked multiPortKeys (multiPortOfEntries_checked multiPortNamed) _)
  intro multiPort _
  apply Checked.outcome_bind (readPart_checked poolKeys (poolOfEntries_checked poolNamed) _)
  intro pool _
  apply Checked.outcome_bind
    (readPart_checked managementKeys (managementOfEntries_checked managementNamed) _)
  intro management _
  apply Checked.outcome_cons (asItems_checked "nodes" _)
  intro items read
  rw [itemsOf_of_asItems read]
  apply Checked.outcome_bind (readNodes_checked 0 items)
  intro nodes _
  apply Checked.outcome_cons (asText_checked "mode" _)
  intro mode _
  apply Checked.outcome_cons (asText_checked "nodes_file" _)
  intro nodesFile _
  apply Checked.outcome_cons (asText_checked "log_level" _)
  intro logLevel _
  exact .ok _

end Sections

section Documents

variable {document : Document} {fault : DecodeFault}

theorem followsSchema_of_checked {entries : Entries} {config : Config}
    (checked : Checked (demands entries) (.ok config)) : FollowsSchema (.map entries) := by
  cases checked with
  | accepted met => exact ⟨entries, rfl, met⟩

theorem firstOffence_of_checked {entries : Entries}
    (checked : Checked (demands entries) (.error fault : Except DecodeFault Config))
    (shown : fault ≠ .tooManyDigits) : FirstOffence (.map entries) fault := by
  cases checked with
  | refused inOrder met blames => exact .setting inOrder met blames.unmet blames blames.names
  | hidden => exact absurd rfl shown

theorem FirstOffence.not_followsSchema (offence : FirstOffence document fault) :
    ¬ FollowsSchema document := by
  rintro ⟨entries, rfl, met⟩
  cases offence with
  | topLevel noMapping => exact noMapping entries rfl
  | setting inOrder _ unmet _ _ =>
      rw [inOrder] at met
      exact unmet (met _ (by simp))

theorem FirstOffence.ne_tooManyDigits (offence : FirstOffence document fault) :
    fault ≠ .tooManyDigits := by
  cases offence with
  | topLevel _ => simp
  | setting _ _ _ blames _ => exact blames.ne_tooManyDigits

theorem kind_decode_of_ne_tooManyDigits (shown : fault ≠ .tooManyDigits) :
    (LoadFault.decode fault).kind = .configuration := by
  cases fault with
  | tooManyDigits => exact absurd rfl shown
  | _ => rfl

theorem followsSchema_of_decoded {config : Config}
    (decoded : (ofDocument document).outcome = .ok config) : FollowsSchema document := by
  cases document with
  | map entries =>
      have checked : Checked (demands entries) (.ok config) := decoded ▸ ofEntries_checked
      exact followsSchema_of_checked checked
  | _ => cases decoded

theorem firstOffence_of_refused (short : ¬ document.HoldsLong)
    (refused : (ofDocument document).outcome = .error fault) : FirstOffence document fault := by
  cases document with
  | map entries =>
      have checked : Checked (demands entries) (.error fault : Except DecodeFault Config) :=
        refused ▸ ofEntries_checked
      refine firstOffence_of_checked checked ?_
      rintro rfl
      exact short (holdsLong_of_tooManyDigits refused)
  | _ =>
      cases refused
      exact .topLevel (by rintro entries ⟨⟩)

/-- A document without long integers is a configuration exactly when it follows
the schema.  Any other one is refused as a fault of the configuration, and the
fault is that of the first setting that is not met. -/
theorem decoded_iff_followsSchema (short : ¬ document.HoldsLong) :
    ((∃ config, (ofDocument document).outcome = .ok config) ↔ FollowsSchema document) ∧
      ∀ fault, (ofDocument document).outcome = .error fault →
        (LoadFault.decode fault).kind = .configuration ∧ FirstOffence document fault := by
  constructor
  · constructor
    · rintro ⟨config, decoded⟩
      exact followsSchema_of_decoded decoded
    · intro follows
      cases ended : (ofDocument document).outcome with
      | ok config => exact ⟨config, rfl⟩
      | error fault =>
          exact absurd follows (firstOffence_of_refused short ended).not_followsSchema
  · intro fault refused
    have offence := firstOffence_of_refused short refused
    exact ⟨kind_decode_of_ne_tooManyDigits offence.ne_tooManyDigits, offence⟩

/-- Two settings that are not met; the port of the second node comes first. -/
def misfitDocument : Document :=
  .record
    [("mode", .list []), ("pool", .record [("failure_threshold", .int (-2))]),
      ("nodes", .list [.null, .record [("password", .int 31), ("port", .bool true)]])]

theorem not_holdsLong_misfitDocument : ¬ misfitDocument.HoldsLong := by
  have shown : misfitDocument.quotedText?.isSome := by decide +kernel
  rw [← Document.quotedText?_eq_none_iff]
  intro hidden
  rw [hidden] at shown
  cases shown

theorem refused_misfitDocument :
    (ofDocument misfitDocument).outcome = .error (.wrongKind "nodes[1].port" .integer) :=
  rfl

theorem decoded_iff_followsSchema_misfitDocument :
    ¬ misfitDocument.HoldsLong ∧ ¬ FollowsSchema misfitDocument ∧
      FirstOffence misfitDocument (.wrongKind "nodes[1].port" .integer) := by
  have schema := decoded_iff_followsSchema not_holdsLong_misfitDocument
  refine ⟨not_holdsLong_misfitDocument, ?_, (schema.2 _ refused_misfitDocument).2⟩
  rw [← schema.1, refused_misfitDocument]
  rintro ⟨config, ⟨⟩⟩

end Documents

end RelayPool.Config
