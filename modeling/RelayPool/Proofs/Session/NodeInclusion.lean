import RelayPool.Proofs.Config.PartialResolution
import RelayPool.Proofs.NodeList.Reading
import RelayPool.Proofs.Session.PortRange

/-!
# Including listed nodes

Including the nodes of the node list file is all or nothing: their nodes come
behind those of the configuration and nothing else changes, or the file is not
read and nothing changes.  A node that comes from the file has its URI, so no
node list file makes resolving miss one.
-/

namespace RelayPool

open Text (strip)
open NodeList (Listed Unreadable)

namespace Config

/-- The nodes that a configuration has to add: those of its node list file, and
none when it names no file. -/
def Added (tree : FileTree) (config : Config) (listed : List Node) : Prop :=
  if config.nodesFile = "" then listed = [] else Listed tree config.nodesFile listed

section Inclusion

variable {tree : FileTree} {config : Config} {nodes listed : List Node} {cause : ReadFault}

/-- The nodes of the configuration come first, and behind them those to add. -/
theorem exists_added_of_mergedNodes (merged : mergedNodes tree config = .ok nodes) :
    ∃ listed, Added tree config listed ∧ config.nodes ++ listed = nodes := by
  by_cases unset : config.nodesFile = ""
  · simp only [mergedNodes, unset, ite_true] at merged
    exact ⟨[], by simp [Added, unset], by simpa using Except.ok.inj merged⟩
  · simp only [mergedNodes, unset, ite_false] at merged
    cases read : NodeList.readText tree config.nodesFile with
    | error fault =>
        rw [read] at merged
        cases merged
    | ok text =>
        rw [read] at merged
        refine ⟨NodeList.nodes text, ?_, Except.ok.inj merged⟩
        simpa [Added, unset] using NodeList.listed_of_readText read

theorem unreadable_of_mergedNodes (merged : mergedNodes tree config = .error cause) :
    config.nodesFile ≠ "" ∧ Unreadable tree config.nodesFile cause := by
  obtain ⟨named, failed⟩ := mergedNodes_eq_error_iff.mp merged
  exact ⟨named, NodeList.readText_eq_error_iff.mp failed⟩

/-- A node to add has a URI, and trimming does not change it. -/
theorem Added.listable (added : Added tree config listed) {node : Node}
    (member : node ∈ listed) : NodeList.Listable node.uri := by
  rw [Added] at added
  split at added
  · rw [added] at member
    cases member
  · obtain ⟨text, written, -, -, listable, rfl⟩ := added
    obtain ⟨uri, isUri, rfl⟩ := List.mem_map.mp member
    exact listable uri isUri

/-- The node that misses its URI was in the configuration before. -/
theorem inline_of_missingUri {index : Nat}
    (failed : (resolve tree config).fault = some (.missingUri index)) :
    ∃ inside : index < config.nodes.length, strip config.nodes[index].uri = "" := by
  cases (fault_eq_some_iff_firstFault tree config _).mp failed with
  | @missingUri nodes _ node known merged first found blank =>
      obtain ⟨listed, added, rfl⟩ := exists_added_of_mergedNodes merged
      by_cases inside : index < config.nodes.length
      · rw [List.getElem?_append_left inside, List.getElem?_eq_getElem inside] at found
        obtain rfl := Option.some.inj found
        exact ⟨inside, blank⟩
      · rw [List.getElem?_append_right (Nat.le_of_not_lt inside)] at found
        have listable := added.listable (List.mem_of_getElem? found)
        exact absurd (listable.trimmed.symm.trans blank) listable.ne_empty

/-- Resolving keeps the URIs of the nodes that come from the file. -/
theorem uris_of_added (success : (resolve tree config).fault = none) :
    ∃ listed, Added tree config listed ∧
      (resolve tree config).config.nodes.length = config.nodes.length + listed.length ∧
        ((resolve tree config).config.nodes.drop config.nodes.length).map (·.uri) =
          listed.map (·.uri) := by
  obtain ⟨raw, merged, length_eq, settled⟩ := settledFrom_of_resolve tree config success
  obtain ⟨listed, added, rfl⟩ := exists_added_of_mergedNodes merged
  rw [List.length_append] at length_eq
  refine ⟨listed, added, length_eq, ?_⟩
  apply List.ext_getElem
  · simp [length_eq]
  · intro place _ inListed
    rw [List.length_map] at inListed
    have behind : (config.nodes ++ listed)[config.nodes.length + place]? = some listed[place] := by
      rw [List.getElem?_append_right (Nat.le_add_right _ _), Nat.add_sub_cancel_left,
        List.getElem?_eq_getElem inListed]
    obtain ⟨final, found, origin⟩ := settled _ _ behind
    obtain ⟨inside, isFinal⟩ := List.getElem?_eq_some_iff.mp found
    rw [List.getElem_map, List.getElem_map, List.getElem_drop, isFinal, origin.uri_eq]
    exact (added.listable (List.getElem_mem inListed)).trimmed

end Inclusion

end Config

namespace Session

open Config (Added)

/-- A step that puts nodes behind those that are there, and changes nothing
else. -/
structure Appends (session : Session) (listed : List Node) (report : StepReport) : Prop where
  outcome_eq : report.outcome = .ok .done
  session_eq :
    report.session =
      session.withConfig { session.config with nodes := session.config.nodes ++ listed }

/-- A step that fails at the node list file with a fault that callers handle, and
changes nothing. -/
structure Refuses (session : Session) (cause : ReadFault) (report : StepReport) : Prop where
  outcome_eq :
    report.outcome = .error (.resolve (.nodeList session.config.nodesFile cause))
  handled : ∀ fault, report.outcome = .error fault → fault.kind = .configuration
  session_eq : report.session = session

section Steps

variable {session : Session}

theorem appends_of_mergedNodes {listed : List Node}
    (merged : Config.mergedNodes session.tree session.config =
      .ok (session.config.nodes ++ listed)) :
    Appends session listed (session.step .includeListed) := by
  have included := Config.outcome_includeListed session.tree session.config
  rw [merged] at included
  constructor <;> simp only [step_includeListed, replacing, included]

theorem refuses_of_mergedNodes {cause : ReadFault}
    (merged : Config.mergedNodes session.tree session.config = .error cause) :
    Refuses session cause (session.step .includeListed) := by
  have included := Config.outcome_includeListed session.tree session.config
  rw [merged] at included
  have resolves : Step.Resolves .includeListed := trivial
  constructor
  · simp only [step_includeListed, replacing, included]
  · exact fun fault failed => kind_of_resolves resolves failed
  · simp only [step_includeListed, replacing, included]

/-- Including the listed nodes adds them all or fails and changes nothing. -/
theorem appends_or_refuses (session : Session) :
    (∃ listed, Added session.tree session.config listed ∧
        Appends session listed (session.step .includeListed)) ∨
      ∃ cause, session.config.nodesFile ≠ "" ∧
        Unreadable session.tree session.config.nodesFile cause ∧
          Refuses session cause (session.step .includeListed) := by
  cases merged : Config.mergedNodes session.tree session.config with
  | ok nodes =>
      left
      obtain ⟨listed, added, rfl⟩ := Config.exists_added_of_mergedNodes merged
      exact ⟨listed, added, appends_of_mergedNodes merged⟩
  | error cause =>
      right
      obtain ⟨named, unreadable⟩ := Config.unreadable_of_mergedNodes merged
      exact ⟨cause, named, unreadable, refuses_of_mergedNodes merged⟩

theorem refuses_of_unreadable {cause : ReadFault} (named : session.config.nodesFile ≠ "")
    (unreadable : Unreadable session.tree session.config.nodesFile cause) :
    Refuses session cause (session.step .includeListed) := by
  apply refuses_of_mergedNodes
  exact Config.mergedNodes_eq_error_iff.mpr
    ⟨named, NodeList.readText_eq_error_iff.mpr unreadable⟩

theorem exists_refuses_of_null (null : '\x00' ∈ session.config.nodesFile.toList) :
    ∃ cause, cause.causeKind = .value ∧
      Refuses session cause (session.step .includeListed) := by
  obtain ⟨cause, isValue, unreadable⟩ :=
    NodeList.exists_unreadable_of_null session.tree null
  have named : session.config.nodesFile ≠ "" := by
    intro unset
    rw [unset] at null
    cases null
  exact ⟨cause, isValue, refuses_of_unreadable named unreadable⟩

end Steps

/-- Including the nodes of the node list file changes nothing but the nodes, and
puts those of the file behind them in their order; or the file is not read, which
is a fault of the configuration with its cause, and nothing changes.  This is so
too when the path has a null character or the bytes encode no text.  Only a node
that was there before can miss its URI, and resolving keeps the URI of every node
that comes from the file. -/
theorem includeListed_allOrNothing :
    (∀ session : Session,
      ((∃ listed, Added session.tree session.config listed ∧
            Appends session listed (session.step .includeListed)) ∨
          ∃ cause, session.config.nodesFile ≠ "" ∧
            Unreadable session.tree session.config.nodesFile cause ∧
              Refuses session cause (session.step .includeListed)) ∧
        (∀ cause, session.config.nodesFile ≠ "" →
          Unreadable session.tree session.config.nodesFile cause →
            Refuses session cause (session.step .includeListed)) ∧
        ('\x00' ∈ session.config.nodesFile.toList →
          ∃ cause, cause.causeKind = .value ∧
            Refuses session cause (session.step .includeListed))) ∧
      ∀ tree (config : Config),
        (∀ index, (config.resolve tree).fault = some (.missingUri index) →
          ∃ inside : index < config.nodes.length, strip config.nodes[index].uri = "") ∧
          ((config.resolve tree).fault = none →
            ∃ listed, Added tree config listed ∧
              (config.resolve tree).config.nodes.length =
                  config.nodes.length + listed.length ∧
                ((config.resolve tree).config.nodes.drop config.nodes.length).map (·.uri) =
                  listed.map (·.uri)) := by
  refine ⟨fun session => ⟨appends_or_refuses session, ?_, exists_refuses_of_null⟩, ?_⟩
  · exact fun cause named unreadable => refuses_of_unreadable named unreadable
  · exact fun tree config => ⟨fun index => Config.inline_of_missingUri, Config.uris_of_added⟩

/-- A node list with white space of several kinds around its URIs and alone in a
line, and a file that encodes no text. -/
def listTree : FileTree :=
  (NodeList.textTree "\u3000s://a:1#A\u0085\n\u00A0#s://b:1\n\u001F \u2028\n s://c:1\r").put "m"
    (.file [0x61, 0xE9, 0x0A])

/-- A pool with a node of its own and a node list file. -/
def listedPool (path : String) : Config :=
  { nodesFile := path, nodes := [{ uri := "s://h:1" }] }

theorem includeListed_allOrNothing_listTree :
    let pool := listedPool "n"
    let unnamed : Config := { pool with nodes := pool.nodes ++ [{ uri := "\u3000" }] }
    ((pool.resolve listTree).fault = none ∧
        ∃ listed, Added listTree pool listed ∧ listed.length = 2 ∧
          ((pool.resolve listTree).config.nodes.drop 1).map (·.uri) = listed.map (·.uri)) ∧
      ((unnamed.resolve listTree).fault = some (.missingUri 1) ∧
        ∃ inside : 1 < unnamed.nodes.length, strip unnamed.nodes[1].uri = "") ∧
      (Unreadable listTree "m" (.encoding ⟨[0xE9], 1, .continuationByte⟩) ∧
        Refuses ⟨listedPool "m", listTree⟩ (.encoding ⟨[0xE9], 1, .continuationByte⟩)
          (step ⟨listedPool "m", listTree⟩ .includeListed)) ∧
      ∃ cause, cause.causeKind = .value ∧
        Refuses ⟨listedPool "n\x00", listTree⟩ cause
          (step ⟨listedPool "n\x00", listTree⟩ .includeListed) := by
  obtain ⟨steps, resolving⟩ := includeListed_allOrNothing
  have success : ((listedPool "n").resolve listTree).fault = none := by decide +kernel
  have length_eq : ((listedPool "n").resolve listTree).config.nodes.length = 3 := by
    decide +kernel
  refine ⟨⟨success, ?_⟩, ⟨by decide +kernel, ?_⟩, ⟨?_, ?_⟩, ?_⟩
  · obtain ⟨listed, added, counted, same⟩ := (resolving listTree (listedPool "n")).2 success
    rw [length_eq] at counted
    have two : listed.length = 2 := by
      simp only [listedPool, List.length_singleton] at counted
      omega
    exact ⟨listed, added, two, same⟩
  · exact (resolving listTree _).1 1 (by decide +kernel)
  · exact NodeList.readText_eq_error_iff.mp (by decide +kernel)
  · exact (steps ⟨listedPool "m", listTree⟩).2.1 _ (by decide)
      (NodeList.readText_eq_error_iff.mp (by decide +kernel))
  · exact (steps ⟨listedPool "n\x00", listTree⟩).2.2 (by decide)

end Session

end RelayPool
