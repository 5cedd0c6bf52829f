import RelayPool.Proofs.Config.Loading
import RelayPool.Proofs.Config.Resolution

/-!
# When resolving fails

Resolving fails exactly when the mode is not supported, the node list file
cannot be read, no nodes are left to settle, or some node cannot be settled;
and the fault is the first of these in that order.  Among the nodes it is the
first one in the list that cannot be settled, and at that node a missing URI
comes before a missing port.
-/

namespace RelayPool.Config

/-- The fault that comes first, in the order in which the faults are looked
for.  Each rule but the first rules out the ones before it. -/
inductive FirstFault (tree : FileTree) (config : Config) : ResolveFault → Prop
  | unsupportedMode (unknown : config.mode ∉ modeNames) :
      FirstFault tree config (.unsupportedMode config.mode)
  | nodeList {fault : ReadFault} (known : config.mode ∈ modeNames)
      (named : config.nodesFile ≠ "")
      (unreadable : NodeList.readText tree config.nodesFile = .error fault) :
      FirstFault tree config (.nodeList config.nodesFile fault)
  | noNodes (known : config.mode ∈ modeNames)
      (empty : mergedNodes tree config = .ok []) :
      FirstFault tree config .noNodes
  | missingUri {nodes : List Node} {place : Nat} {node : Node}
      (known : config.mode ∈ modeNames) (merged : mergedNodes tree config = .ok nodes)
      (first : FirstBlocked (firstPort config) nodes place)
      (found : nodes[place]? = some node) (blank : Text.strip node.uri = "") :
      FirstFault tree config (.missingUri place)
  | noPortLeft {nodes : List Node} {place : Nat} {node : Node}
      (known : config.mode ∈ modeNames) (merged : mergedNodes tree config = .ok nodes)
      (first : FirstBlocked (firstPort config) nodes place)
      (found : nodes[place]? = some node) (present : Text.strip node.uri ≠ "") :
      FirstFault tree config (.noPortLeft place (firstPort config))

/-- Nothing stands in the way of resolving. -/
structure Resolvable (tree : FileTree) (config : Config) (mode : String)
    (nodes : List Node) : Prop where
  supported : mode? config.mode = some mode
  merged : mergedNodes tree config = .ok nodes
  nonempty : nodes ≠ []
  clear : ∀ place, ¬ BlockedAt (firstPort config) nodes place

section Merged

variable {tree : FileTree} {config : Config}

theorem mode_mem_modeNames {mode : String} (supported : mode? config.mode = some mode) :
    config.mode ∈ modeNames := by
  by_contra unknown
  rw [← mode?_eq_none_iff, supported] at unknown
  cases unknown

theorem exists_mode_of_mem (known : config.mode ∈ modeNames) :
    ∃ mode, mode? config.mode = some mode := by
  rw [← Option.ne_none_iff_exists']
  exact fun unsupported => (mode?_eq_none_iff config.mode).mp unsupported known

theorem mergedNodes_eq_error_iff {fault : ReadFault} :
    mergedNodes tree config = .error fault ↔
      config.nodesFile ≠ "" ∧ NodeList.readText tree config.nodesFile = .error fault := by
  by_cases unset : config.nodesFile = ""
  · simp [mergedNodes, unset]
  · cases read : NodeList.readText tree config.nodesFile <;>
      simp [mergedNodes, unset, read, Except.map]

/-- Merged nodes of a known mode are resolved, or one of the faults of the node
list comes first. -/
theorem resolvable_or_firstFault {mode : String} {nodes : List Node}
    (supported : mode? config.mode = some mode)
    (merged : mergedNodes tree config = .ok nodes) :
    Resolvable tree config mode nodes ∨ ∃ fault, FirstFault tree config fault := by
  have known := mode_mem_modeNames supported
  by_cases empty : nodes = []
  · subst empty
    exact .inr ⟨_, .noNodes known merged⟩
  by_cases clear : ∀ place, ¬ BlockedAt (firstPort config) nodes place
  · exact .inl ⟨supported, merged, empty, clear⟩
  · push Not at clear
    obtain ⟨place, blocked⟩ := clear
    obtain ⟨place, first⟩ := exists_firstBlocked blocked
    obtain ⟨node, found, -⟩ := first.1
    by_cases blank : Text.strip node.uri = ""
    · exact .inr ⟨_, .missingUri known merged first found blank⟩
    · exact .inr ⟨_, .noPortLeft known merged first found blank⟩

end Merged

/-- Every configuration can be resolved or has a first fault. -/
theorem exists_resolvable_or_firstFault (tree : FileTree) (config : Config) :
    (∃ mode nodes, Resolvable tree config mode nodes) ∨
      ∃ fault, FirstFault tree config fault := by
  by_cases known : config.mode ∈ modeNames
  · obtain ⟨mode, supported⟩ := exists_mode_of_mem known
    cases merged : mergedNodes tree config with
    | error fault =>
        obtain ⟨named, unreadable⟩ := mergedNodes_eq_error_iff.mp merged
        exact .inr ⟨_, .nodeList known named unreadable⟩
    | ok nodes =>
        rcases resolvable_or_firstFault supported merged with resolvable | failing
        · exact .inl ⟨mode, nodes, resolvable⟩
        · exact .inr failing
  · exact .inr ⟨_, .unsupportedMode known⟩

/-- Resolving reports the fault that comes first. -/
theorem fault_of_firstFault {tree : FileTree} {config : Config} {fault : ResolveFault}
    (failing : FirstFault tree config fault) :
    (resolve tree config).fault = some fault := by
  cases failing with
  | unsupportedMode unknown =>
      rw [resolve_of_unsupported ((mode?_eq_none_iff config.mode).mpr unknown)]
  | nodeList known named unreadable =>
      obtain ⟨mode, supported⟩ := exists_mode_of_mem known
      rw [resolve_of_unreadable supported
        (mergedNodes_eq_error_iff.mpr ⟨named, unreadable⟩)]
  | noNodes known empty =>
      obtain ⟨mode, supported⟩ := exists_mode_of_mem known
      rw [resolve_of_merged supported empty, resolveNodes_of_empty]
  | missingUri known merged first found blank =>
      obtain ⟨mode, supported⟩ := exists_mode_of_mem known
      rw [resolve_of_merged supported merged, resolveNodes_of_firstBlocked first found]
      simp [stopFault, blank]
  | noPortLeft known merged first found present =>
      obtain ⟨mode, supported⟩ := exists_mode_of_mem known
      rw [resolve_of_merged supported merged, resolveNodes_of_firstBlocked first found]
      simp only [stopFault, present, ite_false]
      rfl

/-- A configuration without a fault in its way is resolved. -/
theorem resolve_of_resolvable {tree : FileTree} {config : Config} {mode : String}
    {nodes : List Node} (resolvable : Resolvable tree config mode nodes) :
    (resolve tree config).config = resolvedConfig mode config nodes ∧
      (resolve tree config).fault = none := by
  rw [resolve_of_merged resolvable.supported resolvable.merged,
    resolveNodes_of_clear resolvable.nonempty resolvable.clear]
  exact ⟨rfl, rfl⟩

theorem fault_eq_some_iff_firstFault (tree : FileTree) (config : Config)
    (fault : ResolveFault) :
    (resolve tree config).fault = some fault ↔ FirstFault tree config fault := by
  constructor
  · intro failed
    rcases exists_resolvable_or_firstFault tree config with
      ⟨mode, nodes, resolvable⟩ | ⟨first, failing⟩
    · rw [(resolve_of_resolvable resolvable).2] at failed
      cases failed
    · rw [fault_of_firstFault failing] at failed
      obtain rfl := Option.some.inj failed
      exact failing
  · exact fault_of_firstFault

theorem exists_resolvable_of_success {tree : FileTree} {config : Config}
    (success : (resolve tree config).fault = none) :
    ∃ mode nodes, Resolvable tree config mode nodes := by
  rcases exists_resolvable_or_firstFault tree config with resolvable | ⟨fault, failing⟩
  · exact resolvable
  · rw [fault_of_firstFault failing] at success
    cases success

/-- What stands in the way of resolving, whichever comes first. -/
theorem exists_firstFault_iff (tree : FileTree) (config : Config) :
    (∃ fault, FirstFault tree config fault) ↔
      config.mode ∉ modeNames ∨
        (config.nodesFile ≠ "" ∧
          ∃ fault, NodeList.readText tree config.nodesFile = .error fault) ∨
        mergedNodes tree config = .ok [] ∨
        ∃ nodes place, mergedNodes tree config = .ok nodes ∧
          BlockedAt (firstPort config) nodes place := by
  constructor
  · rintro ⟨fault, failing⟩
    cases failing with
    | unsupportedMode unknown => exact .inl unknown
    | nodeList known named unreadable => exact .inr (.inl ⟨named, _, unreadable⟩)
    | noNodes known empty => exact .inr (.inr (.inl empty))
    | missingUri known merged first found blank =>
        exact .inr (.inr (.inr ⟨_, _, merged, first.1⟩))
    | noPortLeft known merged first found present =>
        exact .inr (.inr (.inr ⟨_, _, merged, first.1⟩))
  · intro obstacle
    rcases exists_resolvable_or_firstFault tree config with
      ⟨mode, nodes, resolvable⟩ | failing
    · have merged := resolvable.merged
      rcases obstacle with unknown | ⟨named, fault, unreadable⟩ | empty |
        ⟨others, place, mergedToo, blocked⟩
      · exact absurd (mode_mem_modeNames resolvable.supported) unknown
      · rw [mergedNodes_eq_error_iff.mpr ⟨named, unreadable⟩] at merged
        cases merged
      · rw [empty] at merged
        exact absurd (Except.ok.inj merged).symm resolvable.nonempty
      · rw [mergedToo] at merged
        obtain rfl := Except.ok.inj merged
        exact absurd blocked (resolvable.clear place)
    · exact failing

/-- Resolving fails exactly when the mode is not supported, the node list file
cannot be read, no nodes are left or some node cannot be settled, with the
fault that comes first and always with one that callers handle. -/
theorem resolve_fails_iff (tree : FileTree) (config : Config) :
    ((resolve tree config).fault ≠ none ↔
        config.mode ∉ modeNames ∨
          (config.nodesFile ≠ "" ∧
            ∃ fault, NodeList.readText tree config.nodesFile = .error fault) ∨
          mergedNodes tree config = .ok [] ∨
          ∃ nodes place, mergedNodes tree config = .ok nodes ∧
            BlockedAt (firstPort config) nodes place) ∧
      (∀ fault, (resolve tree config).fault = some fault ↔ FirstFault tree config fault) ∧
      ∀ fault, (LoadFault.resolve fault).kind = .configuration := by
  refine ⟨?_, fault_eq_some_iff_firstFault tree config, fun _ => rfl⟩
  rw [Option.ne_none_iff_exists', ← exists_firstFault_iff]
  simp only [fault_eq_some_iff_firstFault]

end RelayPool.Config
