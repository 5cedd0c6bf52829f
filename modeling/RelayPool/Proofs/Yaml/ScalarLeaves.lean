import RelayPool.Proofs.Yaml.MergedNodes
import RelayPool.Yaml.Value

/-!
# Scalars in constructed documents

Construction gives a scalar node the value of its text and leaves it at that:
no round opens the node, merging keeps it, and every collection that leads to it
is filled only after it has its value.
-/

namespace RelayPool.Yaml

open Log

/-- The types whose values are read from a text. -/
def scalarTags : List Tag :=
  [.null, .bool, .int, .float, .binary, .timestamp, .text]

/-- The nodes that a value leads to by a place or a key. -/
def Shell.parts : Shell → List Nat
  | .list items => items
  | .map entries => entries.map (·.2)
  | .leaf _ _ | .pairs _ | .set _ => []

namespace Construction

section Shells

variable {state : Construction} {node other : Nat} {shell : Shell}

theorem shell?_setShell_self (inBounds : node < state.shells.size) :
    (state.setShell node shell).shell? node = some shell := by
  simp [setShell, shell?, inBounds]

theorem shell?_setShell_of_ne (different : other ≠ node) :
    (state.setShell other shell).shell? node = state.shell? node := by
  simp [setShell, shell?, different]

theorem shell?_setShell (holder : Nat) {found : Shell}
    (given : (state.setShell other shell).shell? holder = some found) :
    found = shell ∨ state.shell? holder = some found := by
  by_cases same : other = holder
  · subst same
    by_cases inBounds : other < state.shells.size
    · rw [shell?_setShell_self inBounds] at given
      exact .inl (Option.some.inj given).symm
    · have unchanged : state.setShell other shell = state := by
        simp [setShell, Array.setIfInBounds, inBounds]
      exact .inr (unchanged ▸ given)
  · rw [shell?_setShell_of_ne same] at given
    exact .inr given

end Shells

/-- What construction keeps of a scalar node: its text stays, it is not opened,
its value is that of the text, and whatever leads to it came after its value.
It has its value already where `begun` says so. -/
structure HoldsScalar (node : Nat) (tag : Tag) (text : String) (begun : Prop)
    (state : Construction) : Prop where
  kept : state.nodes[node]? = some ⟨tag, .scalar text⟩
  inBounds : node < state.shells.size
  unopened : node ∉ state.opened
  leaf : ∀ shell, state.shell? node = some shell →
    ∃ value origin, shell = .leaf value origin ∧ Scalar.value tag text = .ok value
  reached : ∀ holder shell, state.shell? holder = some shell → node ∈ shell.parts →
    (state.shell? node).isSome
  begun : begun → (state.shell? node).isSome

variable {node : Nat} {tag : Tag} {text : String} {begun : Prop} {state next : Construction}

namespace HoldsScalar

theorem mono {less : Prop} (holds : HoldsScalar node tag text begun state)
    (weaker : less → begun) : HoldsScalar node tag text less state where
  kept := holds.kept
  inBounds := holds.inBounds
  unopened := holds.unopened
  leaf := holds.leaf
  reached := holds.reached
  begun := fun given => holds.begun (weaker given)

theorem setShell {other : Nat} {shell : Shell} (holds : HoldsScalar node tag text begun state)
    (different : other ≠ node) (partsBegun : node ∈ shell.parts → begun) :
    HoldsScalar node tag text begun (state.setShell other shell) := by
  have same : (state.setShell other shell).shell? node = state.shell? node :=
    shell?_setShell_of_ne different
  refine ⟨holds.kept, ?_, holds.unopened, ?_, ?_, ?_⟩
  · rw [Construction.setShell, Array.size_setIfInBounds]
    exact holds.inBounds
  · rw [same]
    exact holds.leaf
  · intro holder found given member
    rw [same]
    rcases shell?_setShell holder given with rfl | before
    · exact holds.begun (partsBegun member)
    · exact holds.reached holder found before member
  · rw [same]
    exact holds.begun

theorem openShell {other : Nat} {shell : Shell} (holds : HoldsScalar node tag text begun state)
    (different : other ≠ node) (partless : shell.parts = []) :
    HoldsScalar node tag text begun (state.openShell other shell) := by
  have set : HoldsScalar node tag text begun (state.setShell other shell) := by
    refine holds.setShell different ?_
    rw [partless]
    rintro ⟨⟩
  refine { set with unopened := ?_ }
  rw [Construction.openShell, List.mem_cons]
  rintro (same | opened)
  · exact different same.symm
  · exact holds.unopened opened

theorem scalarValue_eq (holds : HoldsScalar node tag text begun state) :
    scalarValue state.nodes node = Scalar.value tag text := by
  have content := Nodes.content_of_getElem? holds.kept
  have tagged := Nodes.tag_of_getElem? holds.kept
  simp only at content tagged
  simp only [scalarValue, scalarText, content, tagged]
  cases tag <;> rfl

/-- The value of the scalar itself. -/
theorem setLeaf {value : Document} {origin : Nat}
    (holds : HoldsScalar node tag text begun state)
    (valued : Scalar.value tag text = .ok value) :
    HoldsScalar node tag text True (state.setShell node (.leaf value origin)) := by
  have itself : (state.setShell node (.leaf value origin)).shell? node =
      some (.leaf value origin) := shell?_setShell_self holds.inBounds
  refine ⟨holds.kept, ?_, holds.unopened, ?_, ?_, ?_⟩
  · rw [Construction.setShell, Array.size_setIfInBounds]
    exact holds.inBounds
  · intro shell given
    rw [itself] at given
    obtain rfl := Option.some.inj given
    exact ⟨value, origin, rfl, valued⟩
  · intro _ _ _ _
    rw [itself]
    rfl
  · intro _
    rw [itself]
    rfl

/-- The scalar itself is started by reading its text. -/
theorem exists_value_of_start (typed : tag ∈ scalarTags)
    (holds : HoldsScalar node tag text begun state) (unstarted : state.shell? node = none)
    (started : state.start node = .ok next) :
    ∃ value origin, Scalar.value tag text = .ok value ∧
      next = state.setShell node (.leaf value origin) := by
  have tagged := Nodes.tag_of_getElem? holds.kept
  have read : ∃ value origin, scalarValue state.nodes node = .ok value ∧
      next = state.setShell node (.leaf value origin) := by
    simp only [Construction.start, unstarted, tagged] at started
    simp only [scalarTags, List.mem_cons, List.not_mem_nil, or_false] at typed
    rcases typed with rfl | rfl | rfl | rfl | rfl | rfl | rfl
    all_goals
      obtain ⟨value, read, result⟩ := bind_eq_ok_iff.mp started
      cases result
      exact ⟨value, _, read, rfl⟩
  obtain ⟨value, origin, read, result⟩ := read
  exact ⟨value, origin, holds.scalarValue_eq ▸ read, result⟩

theorem start_other {other : Nat} (holds : HoldsScalar node tag text begun state)
    (different : other ≠ node) (started : state.start other = .ok next) :
    HoldsScalar node tag text begun next := by
  unfold Construction.start at started
  split at started
  · cases started
    exact holds
  · split at started
    · cases started
      exact holds.openShell different rfl
    · cases started
      exact holds.openShell different rfl
    · cases started
      exact holds.openShell different rfl
    · cases started
      exact holds.openShell different rfl
    · cases started
      exact holds.openShell different rfl
    · cases started
    · cases started
    · cases started
    · obtain ⟨value, -, result⟩ := bind_eq_ok_iff.mp started
      cases result
      exact holds.setShell different (by rintro ⟨⟩)

/-- Starting a node keeps the scalar, and gives it its value when it is the one
that is started. -/
theorem start {other : Nat} (typed : tag ∈ scalarTags)
    (holds : HoldsScalar node tag text begun state) (started : state.start other = .ok next) :
    HoldsScalar node tag text (begun ∨ other = node) next := by
  by_cases same : other = node
  · subst same
    cases unstarted : state.shell? other with
    | some shell =>
        simp only [Construction.start, unstarted] at started
        cases started
        exact { holds with begun := fun _ => by rw [unstarted]; rfl }
    | none =>
        obtain ⟨value, origin, valued, rfl⟩ :=
          holds.exists_value_of_start typed unstarted started
        exact (holds.setLeaf valued).mono fun _ => trivial
  · exact (holds.start_other same started).mono (or_iff_left same).mp

theorem startAll {nodes : List Nat} (typed : tag ∈ scalarTags)
    (holds : HoldsScalar node tag text begun state)
    (started : state.startAll nodes = .ok next) :
    HoldsScalar node tag text (begun ∨ node ∈ nodes) next := by
  induction nodes generalizing begun state with
  | nil =>
      cases started
      exact holds.mono (by simp)
  | cons first rest ih =>
      obtain ⟨middle, firstStarted, restStarted⟩ := bind_eq_ok_iff.mp started
      apply (ih (holds.start typed firstStarted) restStarted).mono
      rw [List.mem_cons, or_assoc, eq_comm]
      exact id

theorem startEntries {taken result : List (ShellKey × Nat)} {entries : List (Nat × Nat)}
    (typed : tag ∈ scalarTags) (holds : HoldsScalar node tag text begun state)
    (started : state.startEntries taken entries = .ok (result, next)) :
    HoldsScalar node tag text (begun ∨ node ∈ entries.map (·.2)) next := by
  induction entries generalizing begun state taken with
  | nil =>
      cases started
      exact holds.mono (by simp)
  | cons entry rest ih =>
      obtain ⟨key, value⟩ := entry
      obtain ⟨first, keyStarted, started⟩ := bind_eq_ok_iff.mp started
      obtain ⟨name, -, started⟩ := bind_eq_ok_iff.mp started
      obtain ⟨second, valueStarted, restStarted⟩ := bind_eq_ok_iff.mp started
      have both := (holds.start typed keyStarted).start typed valueStarted
      apply (ih both restStarted).mono
      rw [List.map_cons, List.mem_cons]
      rintro (given | rfl | later)
      · exact .inl (.inl (.inl given))
      · exact .inl (.inr rfl)
      · exact .inr later

theorem startPairs {taken result : List (Nat × Nat)} {items : List Nat}
    (typed : tag ∈ scalarTags) (holds : HoldsScalar node tag text begun state)
    (started : state.startPairs taken items = .ok (result, next)) :
    HoldsScalar node tag text begun next := by
  induction items generalizing begun state taken with
  | nil =>
      cases started
      exact holds
  | cons item rest ih =>
      rw [Construction.startPairs] at started
      split at started
      · obtain ⟨first, keyStarted, started⟩ := bind_eq_ok_iff.mp started
        obtain ⟨second, valueStarted, restStarted⟩ := bind_eq_ok_iff.mp started
        have both := (holds.start typed keyStarted).start typed valueStarted
        exact ih (both.mono fun given => .inl (.inl given)) restStarted
      · cases started

end HoldsScalar

theorem mem_of_insertShellEntry {key : ShellKey} {value : Nat} {taken : List (ShellKey × Nat)}
    {kept : ShellKey × Nat} (member : kept ∈ insertShellEntry key value taken) :
    kept.2 = value ∨ kept.2 ∈ taken.map (·.2) := by
  induction taken with
  | nil =>
      left
      rw [List.mem_singleton.mp member]
  | cons entry rest ih =>
      rw [insertShellEntry] at member
      rw [List.map_cons, List.mem_cons]
      split at member
      · rcases List.mem_cons.mp member with rfl | later
        · exact .inl rfl
        · exact .inr (.inr (List.mem_map_of_mem later))
      · rcases List.mem_cons.mp member with rfl | later
        · exact .inr (.inl rfl)
        · exact (ih later).imp_right .inr

/-- Only values of the entries stand behind the keys that are taken. -/
theorem mem_of_startEntries {taken result : List (ShellKey × Nat)}
    {entries : List (Nat × Nat)} {kept : ShellKey × Nat}
    (started : state.startEntries taken entries = .ok (result, next)) (member : kept ∈ result) :
    kept.2 ∈ taken.map (·.2) ∨ kept.2 ∈ entries.map (·.2) := by
  induction entries generalizing state taken with
  | nil =>
      cases started
      exact .inl (List.mem_map_of_mem member)
  | cons entry rest ih =>
      obtain ⟨key, value⟩ := entry
      obtain ⟨first, -, started⟩ := bind_eq_ok_iff.mp started
      obtain ⟨name, -, started⟩ := bind_eq_ok_iff.mp started
      obtain ⟨second, -, restStarted⟩ := bind_eq_ok_iff.mp started
      rw [List.map_cons, List.mem_cons]
      rcases ih restStarted with before | later
      · obtain ⟨earlier, inserted, same⟩ := List.mem_map.mp before
        rw [← same]
        exact (mem_of_insertShellEntry inserted).elim (fun own => .inr (.inl own)) .inl
      · exact .inr (.inr later)

namespace HoldsScalar

theorem ne_of_content {other : Nat} {content : Content}
    (holds : HoldsScalar node tag text begun state)
    (collection : state.nodes.content other = content)
    (unlike : content ≠ .scalar text) : other ≠ node := by
  rintro rfl
  rw [Nodes.content_of_getElem? holds.kept] at collection
  exact unlike collection.symm

/-- The entries of a mapping lead only to nodes that have been started. -/
theorem fillEntries {other : Nat} {entries : List (Document × Nat)}
    (typed : tag ∈ scalarTags) (holds : HoldsScalar node tag text begun state)
    (filled : state.fillEntries other = .ok (entries, next)) :
    HoldsScalar node tag text (node ∈ entries.map (·.2)) next := by
  have unmarked : tag ≠ .value := by
    rintro rfl
    revert typed
    decide
  unfold Construction.fillEntries at filled
  split at filled
  · next mapping =>
      obtain ⟨nodes, flat, filled⟩ := bind_eq_ok_iff.mp filled
      obtain ⟨⟨taken, last⟩, started, result⟩ := bind_eq_ok_iff.mp filled
      cases result
      have different := holds.ne_of_content mapping (by rintro ⟨⟩)
      have merged : HoldsScalar node tag text begun { state with nodes } :=
        { holds with kept := Nodes.getElem?_flatten unmarked different holds.kept flat }
      apply (merged.startEntries typed started).mono
      intro member
      obtain ⟨entry, inEntries, same⟩ := List.mem_map.mp member
      obtain ⟨kept, inTaken, rfl⟩ := List.mem_map.mp inEntries
      right
      rw [← same]
      exact (mem_of_startEntries started inTaken).resolve_left List.not_mem_nil
  · cases filled

/-- Filling an opened collection keeps the scalar. -/
theorem fill {other : Nat} (typed : tag ∈ scalarTags)
    (holds : HoldsScalar node tag text False state) (different : other ≠ node)
    (filled : state.fill other = .ok next) : HoldsScalar node tag text False next := by
  have pairsFilled (items : List Nat)
      (filled : (state.startPairs [] items >>= fun made =>
        return made.2.setShell other (.pairs made.1)) = .ok next) :
      HoldsScalar node tag text False next := by
    obtain ⟨⟨entries, middle⟩, started, result⟩ := bind_eq_ok_iff.mp filled
    cases result
    exact (holds.startPairs typed started).setShell different (by rintro ⟨⟩)
  unfold Construction.fill at filled
  split at filled
  · split at filled
    · obtain ⟨middle, started, result⟩ := bind_eq_ok_iff.mp filled
      cases result
      exact ((holds.startAll typed started).setShell different .inr).mono False.elim
    · cases filled
  · split at filled
    · exact pairsFilled _ filled
    · cases filled
  · split at filled
    · exact pairsFilled _ filled
    · cases filled
  · obtain ⟨⟨entries, middle⟩, started, result⟩ := bind_eq_ok_iff.mp filled
    cases result
    have given := holds.fillEntries typed started
    exact (given.setShell different (by rintro ⟨⟩)).mono False.elim
  · obtain ⟨⟨entries, middle⟩, started, result⟩ := bind_eq_ok_iff.mp filled
    cases result
    exact ((holds.fillEntries typed started).setShell different id).mono False.elim

theorem fillAll {opened : List Nat} (typed : tag ∈ scalarTags)
    (holds : HoldsScalar node tag text False state) (others : node ∉ opened)
    (filled : state.fillAll opened = .ok next) : HoldsScalar node tag text False next := by
  induction opened generalizing state with
  | nil =>
      cases filled
      exact holds
  | cons first rest ih =>
      obtain ⟨middle, firstFilled, restFilled⟩ := bind_eq_ok_iff.mp filled
      rw [List.mem_cons, not_or, eq_comm] at others
      exact ih (holds.fill typed others.1 firstFilled) others.2 restFilled

theorem rounds {fuel : Nat} (typed : tag ∈ scalarTags)
    (holds : HoldsScalar node tag text False state)
    (ended : Construction.rounds fuel state = .ok next) :
    HoldsScalar node tag text False next := by
  induction fuel generalizing state with
  | zero =>
      cases ended
      exact holds
  | succ fuel ih =>
      rw [Construction.rounds] at ended
      split at ended
      · cases ended
        exact holds
      · obtain ⟨middle, filled, ended⟩ := bind_eq_ok_iff.mp ended
        have closed : HoldsScalar node tag text False { state with opened := [] } :=
          { holds with unopened := List.not_mem_nil }
        have others : node ∉ state.opened.reverse :=
          fun member => holds.unopened (List.mem_reverse.mp member)
        exact ih (closed.fillAll typed others filled) ended

end HoldsScalar

variable {graph : Graph}

theorem holdsScalar_of_ofGraph (typed : tag ∈ scalarTags)
    (scalar : graph.nodes[node]? = some ⟨tag, .scalar text⟩)
    (constructed : ofGraph graph = .ok state) : HoldsScalar node tag text False state := by
  obtain ⟨inBounds, -⟩ := Array.getElem?_eq_some_iff.mp scalar
  obtain ⟨first, started, ended⟩ := bind_eq_ok_iff.mp constructed
  have empty (holder : Nat) : Construction.shell?
      ⟨graph.nodes, Array.replicate graph.nodes.size none, []⟩ holder = none := by
    simp only [shell?, Array.getD_eq_getD_getElem?, Array.getElem?_replicate]
    split <;> rfl
  have initial : HoldsScalar node tag text False
      ⟨graph.nodes, Array.replicate graph.nodes.size none, []⟩ := by
    refine ⟨scalar, ?_, List.not_mem_nil, ?_, ?_, False.elim⟩
    · rw [Array.size_replicate]
      exact inBounds
    · intro shell given
      rw [empty] at given
      cases given
    · intro holder shell given
      rw [empty] at given
      cases given
  exact ((initial.start typed started).mono .inl).rounds typed ended

/-- In a constructed document a scalar that something leads to has the value of
its text. -/
theorem exists_leaf_of_ofGraph {holder : Nat} {shell : Shell} (typed : tag ∈ scalarTags)
    (scalar : graph.nodes[node]? = some ⟨tag, .scalar text⟩)
    (constructed : ofGraph graph = .ok state) (given : state.shell? holder = some shell)
    (member : node ∈ shell.parts) :
    ∃ value origin, state.shell? node = some (.leaf value origin) ∧
      Scalar.value tag text = .ok value := by
  have holds := holdsScalar_of_ofGraph typed scalar constructed
  obtain ⟨shell, known⟩ := Option.isSome_iff_exists.mp (holds.reached holder shell given member)
  obtain ⟨value, origin, rfl, valued⟩ := holds.leaf shell known
  exact ⟨value, origin, known, valued⟩

end Construction

end RelayPool.Yaml
