import RelayPool.Config.Decode
import RelayPool.Proofs.Document.LongInteger
import RelayPool.Proofs.Document.Lookup
import RelayPool.Proofs.Log.Outcome

/-!
# Documents refused for their digits

Reading a document as a configuration may end because an integer has too many
digits to be shown.  Such an integer then stands in the document itself: every
reader passes on values that it found there, and none makes a number of its
own.
-/

namespace RelayPool.Config

open Log

/-- A long integer stands in a value, which may be absent. -/
def LongIn (value : Option Document) : Prop :=
  ∃ document ∈ value, document.HoldsLong

@[simp]
theorem longIn_some (document : Document) :
    LongIn (some document) ↔ document.HoldsLong := by
  simp [LongIn]

/-- An outcome of reading a value that is an error for too many digits only if
a long integer stands in the value. -/
def BlamesLong {α : Type} (value : Option Document)
    (outcome : Except DecodeFault α) : Prop :=
  outcome = .error .tooManyDigits → LongIn value

namespace BlamesLong

variable {α β : Type} {value value' : Option Document}

theorem mono {outcome : Except DecodeFault α} (blames : BlamesLong value outcome)
    (within : LongIn value → LongIn value') : BlamesLong value' outcome :=
  fun refused => within (blames refused)

theorem ok (result : α) : BlamesLong value (.ok result) := by
  rintro ⟨⟩

theorem bind {first : Except DecodeFault α} {next : α → Except DecodeFault β}
    (firstBlames : BlamesLong value first)
    (nextBlames : ∀ result, BlamesLong value (next result)) :
    BlamesLong value (first >>= next) := by
  intro refused
  rcases bind_eq_error_iff.mp refused with atFirst | ⟨result, -, atNext⟩
  · exact firstBlames atFirst
  · exact nextBlames result atNext

theorem outcome_bind {first : Reported DecodeFault α} {next : α → Reported DecodeFault β}
    (firstBlames : BlamesLong value first.outcome)
    (nextBlames : ∀ result, first.outcome = .ok result →
      BlamesLong value (next result).outcome) :
    BlamesLong value (first >>= next).outcome := by
  intro refused
  rcases Reported.outcome_bind_eq_error_iff.mp refused with
    atFirst | ⟨result, done, atNext⟩
  · exact firstBlames atFirst
  · exact nextBlames result done atNext

end BlamesLong

section Values

variable (key : String) (value : Option Document)

theorem asText_blamesLong : BlamesLong value (asText key value) := by
  intro refused
  unfold asText at refused
  split at refused
  · cases refused
  · cases refused
  · cases refused
  · cases refused
  · next number =>
      cases shown : Number.intText? number with
      | some text => simp [shown] at refused
      | none => exact (longIn_some _).mpr (.int shown)
  · cases refused

theorem asInt_blamesLong : BlamesLong value (asInt key value) := by
  intro refused
  unfold asInt at refused
  split at refused <;> cases refused

theorem asPort_blamesLong : BlamesLong value (asPort key value) := by
  intro refused
  rcases bind_eq_error_iff.mp refused with unread | ⟨port, read, unfit⟩
  · exact asInt_blamesLong key value unread
  · split at unfit
    · cases unfit
    · split at unfit
      · cases unfit
      · next hidden =>
          have long : Number.intText? port = none := by simpa using hidden
          unfold asInt at read
          split at read
          · obtain rfl := Except.ok.inj read
            simp [Number.intText?] at long
          · obtain rfl := Except.ok.inj read
            simp [Number.intText?] at long
          · obtain rfl := Except.ok.inj read
            exact (longIn_some _).mpr (.int long)
          · cases read

theorem asTruthValue_blamesLong : BlamesLong value (asTruthValue key value) := by
  intro refused
  unfold asTruthValue at refused
  split at refused <;> cases refused

theorem asDuration_blamesLong : BlamesLong value (asDuration key value) := by
  intro refused
  unfold asDuration at refused
  split at refused
  · cases refused
  · cases refused
  · obtain ⟨fault, -, different⟩ := mapError_eq_error_iff.mp refused
    cases different

end Values

section Parts

variable {entries : Entries}

theorem longIn_of_lookup? {name : String}
    (long : LongIn (Document.lookup? name entries)) : LongIn (some (.map entries)) := by
  obtain ⟨value, found, holds⟩ := long
  exact (longIn_some _).mpr (.value (Document.mem_of_lookup? found) holds)

/-- A setting is refused for its digits only if its section holds a long
integer. -/
theorem setting_blamesLong {α : Type}
    {read : String → Option Document → Except DecodeFault α}
    (readBlames : ∀ key value, BlamesLong value (read key value)) (scope name : String) :
    BlamesLong (some (.map entries)) (setting read scope entries name) :=
  (readBlames _ _).mono longIn_of_lookup?

theorem listenerOfEntries_blamesLong (scope : String) :
    BlamesLong (some (.map entries)) (listenerOfEntries scope entries) := by
  apply BlamesLong.bind (setting_blamesLong asText_blamesLong scope "address")
  intro address
  apply BlamesLong.bind (setting_blamesLong asPort_blamesLong scope "port")
  intro port
  apply BlamesLong.bind (setting_blamesLong asText_blamesLong scope "username")
  intro username
  apply BlamesLong.bind (setting_blamesLong asText_blamesLong scope "password")
  intro password
  exact .ok _

theorem multiPortOfEntries_blamesLong (scope : String) :
    BlamesLong (some (.map entries)) (multiPortOfEntries scope entries) := by
  apply BlamesLong.bind (setting_blamesLong asText_blamesLong scope "address")
  intro address
  apply BlamesLong.bind (setting_blamesLong asPort_blamesLong scope "base_port")
  intro basePort
  apply BlamesLong.bind (setting_blamesLong asText_blamesLong scope "username")
  intro username
  apply BlamesLong.bind (setting_blamesLong asText_blamesLong scope "password")
  intro password
  exact .ok _

theorem poolOfEntries_blamesLong (scope : String) :
    BlamesLong (some (.map entries)) (poolOfEntries scope entries) := by
  apply BlamesLong.bind (setting_blamesLong asText_blamesLong scope "mode")
  intro mode
  apply BlamesLong.bind (setting_blamesLong asInt_blamesLong scope "failure_threshold")
  intro failureThreshold
  apply BlamesLong.bind (setting_blamesLong asDuration_blamesLong scope "blacklist_duration")
  intro blacklistDuration
  exact .ok _

theorem managementOfEntries_blamesLong (scope : String) :
    BlamesLong (some (.map entries)) (managementOfEntries scope entries) := by
  apply BlamesLong.bind (setting_blamesLong asTruthValue_blamesLong scope "enabled")
  intro enabled
  apply BlamesLong.bind (setting_blamesLong asText_blamesLong scope "listen")
  intro listen
  apply BlamesLong.bind (setting_blamesLong asText_blamesLong scope "probe_target")
  intro probeTarget
  exact .ok _

theorem nodeOfEntries_blamesLong (scope : String) :
    BlamesLong (some (.map entries)) (nodeOfEntries scope entries) := by
  apply BlamesLong.bind (setting_blamesLong asText_blamesLong scope "name")
  intro name
  apply BlamesLong.bind (setting_blamesLong asText_blamesLong scope "uri")
  intro uri
  apply BlamesLong.bind (setting_blamesLong asPort_blamesLong scope "port")
  intro port
  apply BlamesLong.bind (setting_blamesLong asText_blamesLong scope "username")
  intro username
  apply BlamesLong.bind (setting_blamesLong asText_blamesLong scope "password")
  intro password
  exact .ok _

/-- An unknown key that cannot be reported holds a long integer. -/
theorem reportUnknown_blamesLong (known : List String) (scope : String) :
    BlamesLong (some (.map entries)) (reportUnknown known scope entries).outcome := by
  induction entries with
  | nil => exact .ok ()
  | cons entry rest ih =>
      have later : BlamesLong (some (.map (entry :: rest)))
          (reportUnknown known scope rest).outcome := by
        refine ih.mono ?_
        simp only [longIn_some, Document.holdsLong_map_iff]
        rintro ⟨inner, member, holds⟩
        exact ⟨inner, List.mem_cons_of_mem _ member, holds⟩
      obtain ⟨key, value⟩ := entry
      rw [reportUnknown]
      split
      · exact later
      · cases shown : key.plainText? with
        | none =>
            intro _
            exact (longIn_some _).mpr
              (.key List.mem_cons_self (Document.holdsLong_of_plainText? shown))
        | some name => exact .outcome_bind (.ok ()) fun _ _ => later

theorem asEntries_eq_ok {key : String} {value : Option Document}
    (read : asEntries key value = .ok entries) :
    entries = [] ∨ value = some (.map entries) := by
  unfold asEntries at read
  split at read
  · exact .inl (Except.ok.inj read).symm
  · exact .inl (Except.ok.inj read).symm
  · obtain rfl := Except.ok.inj read
    exact .inr rfl
  · cases read

theorem longIn_of_asEntries {key : String} {value : Option Document}
    (read : asEntries key value = .ok entries) (long : LongIn (some (.map entries))) :
    LongIn value := by
  rcases asEntries_eq_ok read with rfl | rfl
  · simp [Document.holdsLong_map_iff] at long
  · exact long

theorem asEntries_blamesLong (key : String) (value : Option Document) :
    BlamesLong value (asEntries key value) := by
  intro refused
  unfold asEntries at refused
  split at refused <;> cases refused

theorem asEntries_of_readSection {known : List String} {scope : String}
    {value : Option Document}
    (read : (readSection known scope value).outcome = .ok entries) :
    asEntries scope value = .ok entries := by
  obtain ⟨found, asked, rest⟩ := Reported.outcome_bind_eq_ok_iff.mp read
  obtain ⟨-, -, result⟩ := Reported.outcome_bind_eq_ok_iff.mp rest
  cases result
  exact asked

theorem readSection_blamesLong (known : List String) (scope : String)
    (value : Option Document) :
    BlamesLong value (readSection known scope value).outcome := by
  apply BlamesLong.outcome_bind (asEntries_blamesLong scope value)
  intro entries read
  have reported := (reportUnknown_blamesLong known scope).mono (longIn_of_asEntries read)
  exact reported.outcome_bind fun _ _ => .ok entries

/-- A section is refused for its digits only if it holds a long integer. -/
theorem readPart_blamesLong {α : Type} {known : List String}
    {read : String → Entries → Except DecodeFault α}
    (readBlames : ∀ {entries} scope, BlamesLong (some (.map entries)) (read scope entries))
    (scope : String) (value : Option Document) :
    BlamesLong value (readPart known read scope value).outcome := by
  apply BlamesLong.outcome_bind (readSection_blamesLong known scope value)
  intro entries done
  exact (readBlames scope).mono (longIn_of_asEntries (asEntries_of_readSection done))

theorem readPart_lookup?_blamesLong {α : Type} {known : List String}
    {read : String → Entries → Except DecodeFault α}
    (readBlames : ∀ {entries} scope, BlamesLong (some (.map entries)) (read scope entries))
    (name : String) :
    BlamesLong (some (.map entries))
      (readPart known read name (Document.lookup? name entries)).outcome :=
  (readPart_blamesLong readBlames name _).mono longIn_of_lookup?

theorem asItems_blamesLong (key : String) (value : Option Document) :
    BlamesLong value (asItems key value) := by
  intro refused
  unfold asItems at refused
  split at refused <;> cases refused

theorem longIn_of_asItems {key : String} {value : Option Document} {items : List Document}
    (read : asItems key value = .ok items) (long : LongIn (some (.list items))) :
    LongIn value := by
  unfold asItems at read
  split at read
  · obtain rfl := Except.ok.inj read
    simp [Document.holdsLong_list_iff] at long
  · obtain rfl := Except.ok.inj read
    simp [Document.holdsLong_list_iff] at long
  · obtain rfl := Except.ok.inj read
    exact long
  · cases read

theorem readNodes_blamesLong (index : Nat) (items : List Document) :
    BlamesLong (some (.list items)) (readNodes index items).outcome := by
  induction items generalizing index with
  | nil => exact .ok []
  | cons item rest ih =>
      have first : BlamesLong (some (.list (item :: rest)))
          (readPart nodeKeys nodeOfEntries (nodeKey index) (some item)).outcome := by
        apply (readPart_blamesLong nodeOfEntries_blamesLong _ _).mono
        simp only [longIn_some]
        exact .item List.mem_cons_self
      have others : BlamesLong (some (.list (item :: rest)))
          (readNodes (index + 1) rest).outcome := by
        apply (ih (index + 1)).mono
        simp only [longIn_some, Document.holdsLong_list_iff]
        rintro ⟨later, member, holds⟩
        exact ⟨later, List.mem_cons_of_mem _ member, holds⟩
      exact first.outcome_bind fun _ _ => others.outcome_bind fun _ _ => .ok _

theorem ofEntries_blamesLong :
    BlamesLong (some (.map entries)) (ofEntries entries).outcome := by
  apply BlamesLong.outcome_bind (reportUnknown_blamesLong topLevelKeys "")
  intro _ _
  apply BlamesLong.outcome_bind (readPart_lookup?_blamesLong listenerOfEntries_blamesLong _)
  intro listener _
  apply BlamesLong.outcome_bind (readPart_lookup?_blamesLong multiPortOfEntries_blamesLong _)
  intro multiPort _
  apply BlamesLong.outcome_bind (readPart_lookup?_blamesLong poolOfEntries_blamesLong _)
  intro pool _
  apply BlamesLong.outcome_bind (readPart_lookup?_blamesLong managementOfEntries_blamesLong _)
  intro management _
  apply BlamesLong.outcome_bind ((asItems_blamesLong "nodes" _).mono longIn_of_lookup?)
  intro items read
  have itemsInside : LongIn (some (.list items)) → LongIn (some (.map entries)) :=
    fun long => longIn_of_lookup? (longIn_of_asItems read long)
  apply BlamesLong.outcome_bind ((readNodes_blamesLong 0 items).mono itemsInside)
  intro nodes _
  apply BlamesLong.outcome_bind (setting_blamesLong asText_blamesLong "" "mode")
  intro mode _
  apply BlamesLong.outcome_bind (setting_blamesLong asText_blamesLong "" "nodes_file")
  intro nodesFile _
  apply BlamesLong.outcome_bind (setting_blamesLong asText_blamesLong "" "log_level")
  intro logLevel _
  exact .ok _

/-- A document is refused for its digits only if it holds a long integer. -/
theorem holdsLong_of_tooManyDigits {document : Document}
    (refused : (ofDocument document).outcome = .error .tooManyDigits) :
    document.HoldsLong := by
  cases document with
  | map entries => exact (longIn_some _).mp (ofEntries_blamesLong refused)
  | _ => cases refused

end Parts

end RelayPool.Config
