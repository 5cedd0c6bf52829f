import RelayPool.Proofs.Config.ResolvedNodes
import RelayPool.Proofs.Number.DecimalDigits
import RelayPool.Proofs.Number.DecimalNotation
import RelayPool.Proofs.Text.Trimmed
import RelayPool.Proofs.Uri.NameSurvival

/-!
# Names of resolved nodes

A node's own name is trimmed before it is looked at, and one that is nothing but
white space counts as none.  The name in a URI is taken as it was read: white space
at its ends stays, and a name of nothing else is still a name.  A fragment without
`%` and `+` cannot bring in such a name, unless it begins with white space itself.
-/

namespace RelayPool

/-- A name that has no white space at its ends and something between them. -/
structure IsTidyName (name : String) : Prop where
  trimmed : Text.strip name = name
  not_blank : ∃ character ∈ name.toList, ¬ Text.isBlank character

theorem isTidyName_iff {name : String} :
    IsTidyName name ↔ Text.strip name = name ∧ name ≠ "" := by
  constructor
  · rintro ⟨trimmed, character, member, dark⟩
    refine ⟨trimmed, ?_⟩
    rintro rfl
    cases member
  · rintro ⟨trimmed, nonempty⟩
    refine ⟨trimmed, ?_⟩
    by_contra blank
    push Not at blank
    exact nonempty (trimmed ▸ (Text.strip_eq_empty_iff name).mpr blank)

namespace Uri

section Plain

variable {uri : String} {front written : List Char} {bytes : List UInt8}

theorem eq_of_unescape (unescaped : unescape written = .ok bytes) :
    bytes = Percent.decode (Text.Utf8.encode written) := by
  rw [unescape] at unescaped
  split at unescaped
  · cases unescaped
  · split at unescaped
    · cases unescaped
    · exact (Except.ok.inj unescaped).symm

/-- A fragment with nothing to read in it is the name as it stands, unless the URI
has none. -/
theorem name_of_plain (parted : Parted '#' uri.toList front written) (unmarked : '%' ∉ written)
    (noPlus : '+' ∉ written) : name uri = "" ∨ name uri = String.ofList written := by
  cases found : fragment uri with
  | error fault =>
      left
      rw [name, found]
  | ok bytes =>
      right
      rw [name, found]
      rw [fragment, parted_iff.mp parted] at found
      obtain ⟨_, -, unescaped⟩ := Log.bind_eq_ok_iff.mp found
      rw [eq_of_unescape unescaped, Percent.decode_encode_of_not_mem unmarked]
      exact (label_encode_eq_iff written).mpr (.inr ⟨unmarked, noPlus⟩)

theorem strip_name_of_plain (trimmed : Text.strip uri = uri)
    (parted : Parted '#' uri.toList front written) (unmarked : '%' ∉ written)
    (noPlus : '+' ∉ written) (begins : ∀ first ∈ written.head?, ¬ Text.isBlank first) :
    Text.strip (name uri) = name uri := by
  rcases name_of_plain parted unmarked noPlus with none | named
  · rw [none]
    decide
  rw [named, Text.strip, String.toList_ofList, (Text.trimmed_eq_self_iff written).mpr]
  constructor
  · intro nonempty
    exact begins _ (by rw [List.head?_eq_getElem?, List.getElem?_eq_getElem nonempty]; rfl)
  · intro nonempty
    -- The last character of the fragment is the last one of the URI.
    have ends : Text.IsTrimmed uri.toList := by
      rw [← Text.trimmed_eq_self_iff, ← Text.toList_strip, trimmed]
    rw [parted.suffix.getLast nonempty]
    exact ends.2 _

end Plain

end Uri

namespace Config

section Names

variable {index : Nat} {name uri : String}

theorem isTidyName_number (index : Nat) : IsTidyName ("node-" ++ toString index) := by
  rw [isTidyName_iff]
  constructor
  · have dark : ∀ character ∈ ("node-" ++ toString index).toList,
        Text.isBlank character = false := by
      rw [String.toList_append, Number.toList_toString_nat]
      have inPrefix : ∀ character ∈ ['n', 'o', 'd', 'e', '-'],
          Text.isBlank character = false := by
        simp only [List.forall_mem_cons]
        exact ⟨rfl, rfl, rfl, rfl, rfl, List.forall_mem_nil _⟩
      refine List.forall_mem_append.mpr ⟨inPrefix, fun digit member => ?_⟩
      have isDigit : digit.isDigit :=
        Nat.isDigit_of_mem_toDigits (by decide) (by decide) member
      exact Text.isBlank_of_isDecimalDigit (Number.isDecimalDigit_of_isDigit isDigit)
    rw [Text.strip, Text.trimmed_of_dark dark, String.ofList_toList]
  · intro empty
    simpa using congrArg String.toList empty

theorem isTidyName_nodeName_iff :
    IsTidyName (nodeName index (Text.strip name) uri) ↔
      (Text.strip name = "" → Text.strip (Uri.name uri) = Uri.name uri) := by
  by_cases own : Text.strip name = ""
  · by_cases carried : Uri.name uri = ""
    · have numbered : nodeName index (Text.strip name) uri = "node-" ++ toString index := by
        simp [nodeName, orText, own, carried]
      rw [numbered, carried]
      exact iff_of_true (isTidyName_number index) fun _ => by decide
    · simp [nodeName, orText, own, carried, isTidyName_iff]
  · simp [nodeName, orText, own, isTidyName_iff]

end Names

/-- A node whose resolved name is tidy: a name of its own is trimmed, and the one in
its URI has to be so as it is read. -/
def NamedTidily (node : Node) : Prop :=
  Text.strip node.name = "" →
    Text.strip (Uri.name (Text.strip node.uri)) = Uri.name (Text.strip node.uri)

section Settled

variable {settings : NodeSettings} {index : Nat} {port : Int} {node : Node}

theorem isTidyName_settledNode_iff :
    IsTidyName (settledNode settings index port node).name ↔ NamedTidily node := by
  simp only [settledNode, NamedTidily]
  exact isTidyName_nodeName_iff

theorem strip_name_settledNode (tidily : NamedTidily node) :
    Text.strip (settledNode settings index port node).name =
      (settledNode settings index port node).name :=
  (isTidyName_iff.mp (isTidyName_settledNode_iff.mpr tidily)).1

end Settled

/-- A node with a name of its own, or with a fragment that has nothing to read in it
and does not begin with white space. -/
def NamedPlainly (node : Node) : Prop :=
  Text.strip node.name ≠ "" ∨
    ∃ front written, Uri.Parted '#' (Text.strip node.uri).toList front written ∧
      '%' ∉ written ∧ '+' ∉ written ∧ ∀ first ∈ written.head?, ¬ Text.isBlank first

/-- The final names are trimmed and not blank exactly where no name of white space,
or with white space at an end, is taken from a URI. -/
theorem tidyNames_of_resolve (tree : FileTree) (config : Config)
    (success : (resolve tree config).fault = none) :
    ∃ raw, mergedNodes tree config = .ok raw ∧
      (∀ (index : Nat) (node : Node), raw[index]? = some node →
        ∃ final : Node, (resolve tree config).config.nodes[index]? = some final ∧
          (IsTidyName final.name ↔ NamedTidily node)) ∧
      ((∀ final ∈ (resolve tree config).config.nodes, IsTidyName final.name) ↔
        ∀ node ∈ raw, NamedTidily node) ∧
      ∀ node, NamedPlainly node → NamedTidily node := by
  obtain ⟨mode, raw, resolvable⟩ := exists_resolvable_of_success success
  rw [(resolve_of_resolvable resolvable).1]
  have each (index : Nat) (node : Node) (found : raw[index]? = some node) :
      ∃ final : Node, (resolvedConfig mode config raw).nodes[index]? = some final ∧
        (IsTidyName final.name ↔ NamedTidily node) := by
    refine ⟨settledNode (nodeSettings (completed mode config raw)) (0 + index)
      (firstPort config + openPorts (raw.take index)) node, ?_, isTidyName_settledNode_iff⟩
    rw [resolvedConfig, getElem?_settledNodes, found, Option.map_some]
  refine ⟨raw, resolvable.merged, each, ?_, ?_⟩
  · constructor
    · intro tidy node member
      obtain ⟨index, found⟩ := List.mem_iff_getElem?.mp member
      obtain ⟨final, stands, iff⟩ := each index node found
      exact iff.mp (tidy final (List.mem_of_getElem? stands))
    · intro tidily final member
      obtain ⟨index, stands⟩ := List.mem_iff_getElem?.mp member
      have settled := stands
      rw [resolvedConfig, getElem?_settledNodes, Option.map_eq_some_iff] at settled
      obtain ⟨node, found, -⟩ := settled
      obtain ⟨same, standsToo, iff⟩ := each index node found
      obtain rfl : final = same := Option.some.inj (stands.symm.trans standsToo)
      exact iff.mpr (tidily node (List.mem_of_getElem? found))
  · rintro node (own | ⟨front, written, parted, unmarked, noPlus, begins⟩)
    · exact fun blank => absurd blank own
    · exact fun _ =>
        Uri.strip_name_of_plain (Text.strip_strip _) parted unmarked noPlus begins

/-- A pool with names from every source: one of its own, two written plainly, and one
that is a space. -/
def namedPool : Config :=
  { nodes :=
      [{ name := " Rome ", uri := "s://h:1#%20" }, { name := " ", uri := "s://h:2#Oslo" },
        { uri := "s://h:3" }, { uri := "s://h:4#+" }] }

theorem tidyNames_of_resolve_namedPool :
    (resolve .empty namedPool).fault = none ∧
      ((resolve .empty namedPool).config.nodes.map fun node => node.name) =
        ["Rome", "Oslo", "node-2", " "] ∧
      (∃ final : Node, (resolve .empty namedPool).config.nodes[1]? = some final ∧
        IsTidyName final.name) ∧
      ∃ final : Node, (resolve .empty namedPool).config.nodes[3]? = some final ∧
        ¬ IsTidyName final.name := by
  have success : (resolve .empty namedPool).fault = none := by decide +kernel
  obtain ⟨raw, merged, each, -, plainly⟩ := tidyNames_of_resolve .empty namedPool success
  obtain rfl : namedPool.nodes = raw := Except.ok.inj merged
  obtain ⟨second, standsSecond, tidySecond⟩ := each 1 _ rfl
  obtain ⟨last, standsLast, tidyLast⟩ := each 3 _ rfl
  refine ⟨success, by decide +kernel, ⟨second, standsSecond, tidySecond.mpr ?_⟩, last,
    standsLast, fun tidy => ?_⟩
  · refine plainly _ (.inr ⟨"s://h:2".toList, "Oslo".toList, ?_, by decide, by decide, ?_⟩)
    · rw [Uri.parted_iff]
      decide +kernel
    · intro first begins
      obtain rfl : 'O' = first := Option.some.inj begins
      decide
  · have trimmed := tidyLast.mp tidy (by decide +kernel)
    revert trimmed
    decide +kernel

/-- Two nodes without names of their own, whose fragments write a space and a name
behind a space. -/
def blankFragments : Config :=
  { nodes := [{ uri := "s://h:1#%20" }, { uri := "s://h:2#+Oslo" }] }

theorem not_isTidyName_blankFragments :
    (resolve .empty blankFragments).fault = none ∧
      ((resolve .empty blankFragments).config.nodes.map fun node => node.name) =
        [" ", " Oslo"] ∧
      ∀ name ∈ [" ", " Oslo"], ¬ IsTidyName name := by
  refine ⟨by decide +kernel, by decide +kernel, ?_⟩
  simp only [isTidyName_iff]
  decide +kernel

end Config

end RelayPool
