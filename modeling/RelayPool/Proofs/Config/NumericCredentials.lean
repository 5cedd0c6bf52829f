import RelayPool.Proofs.Config.Credentials
import RelayPool.Proofs.Yaml.NumberNotation
import RelayPool.Proofs.Yaml.Unfolding

/-!
# Numbers as credentials

A credential may be written without quotes, and then it can be a number.  The
configuration holds the text of that number, which is what was written only if
the number was written in its own notation.
-/

namespace RelayPool.Config

open Yaml

/-- The node by which a document gives a credential. -/
def givenNode? (source : Source) (owner : CredentialOwner) (part : CredentialPart) :
    Option GraphNode := do
  let graph ← (Graph.ofSource? source).toOption.join
  let state ← (Construction.ofGraph graph).toOption
  let node ← nodeAt? state.shells (credentialRoute owner part) graph.root
  graph.nodes[node]?

/-- The file at a path gives a credential as a plain scalar that is a number. -/
structure GivenAsNumber (tree : FileTree) (path : String) (owner : CredentialOwner)
    (part : CredentialPart) (text : String) : Prop where
  scalar : ∃ bytes, tree.read path = .ok bytes ∧
    givenNode? (.ofBytes bytes) owner part = some ⟨.ofPlain text, .scalar text⟩
  number : Tag.ofPlain text = .int ∨ Tag.ofPlain text = .float

section Numbers

variable {text : String} {owner : CredentialOwner} {part : CredentialPart}

theorem length_credentialRoute (owner : CredentialOwner) (part : CredentialPart) :
    (credentialRoute owner part).length ≤ 3 := by
  cases owner
  · exact Nat.le_succ 2
  · exact Nat.le_refl 3

theorem credentialRoute_ne_nil (owner : CredentialOwner) (part : CredentialPart) :
    credentialRoute owner part ≠ [] := by
  cases owner <;> rintro ⟨⟩

theorem intText?_of_asText {key held : String} {number : Int}
    (read : asText key (some (.int number)) = .ok held) :
    Number.intText? number = some held := by
  unfold asText at read
  simp only at read
  generalize Number.intText? number = shown at read ⊢
  cases shown with
  | none => cases read
  | some text => exact congrArg some (Except.ok.inj read)

theorem documentOf_of_at? {document value : Document}
    (found : document.at? (credentialRoute owner part) = some value) :
    documentOf (some document) = document := by
  cases document with
  | null => cases owner <;> cases found
  | _ => rfl

/-- The number of a plain scalar is read as its text. -/
theorem numberText?_of_asText {key held : String} {value : Document}
    (number : Tag.ofPlain text = .int ∨ Tag.ofPlain text = .float)
    (valued : Scalar.value (Tag.ofPlain text) text = .ok value)
    (read : asText key (some value) = .ok held) : numberText? text = some held := by
  rcases number with form | form
  · rw [form, Scalar.value, Log.mapError_eq_ok_iff] at valued
    cases written : Scalar.int text with
    | error fault =>
        rw [written] at valued
        cases valued
    | ok number =>
        rw [written] at valued
        cases valued
        simp only [numberText?, form, written, Except.toOption, Option.bind_some]
        exact intText?_of_asText read
  · rw [form, Scalar.value, Log.mapError_eq_ok_iff] at valued
    cases written : Scalar.float text with
    | error fault =>
        rw [written] at valued
        cases valued
    | ok number =>
        rw [written] at valued
        cases valued
        cases read
        simp only [numberText?, form, written]
        rfl

variable {tree : FileTree} {path : String} {config : Config}

/-- The document of the file holds the number that the scalar writes. -/
theorem GivenAsNumber.exists_value (given : GivenAsNumber tree path owner part text) :
    ∃ document value, Holds tree path document ∧
      document.at? (credentialRoute owner part) = some value ∧
        Scalar.value (Tag.ofPlain text) text = .ok value := by
  obtain ⟨bytes, read, found⟩ := given.scalar
  simp only [givenNode?, Option.bind_eq_bind, Option.bind_eq_some_iff, Option.join_eq_some_iff,
    Log.toOption_eq_some_iff] at found
  obtain ⟨graph, parsed, state, constructed, node, reached, scalar⟩ := found
  have typed : Tag.ofPlain text ∈ scalarTags := by
    rcases given.number with form | form <;> rw [form] <;> decide
  have document := value?_of_constructed parsed constructed
  obtain ⟨value, valued, found⟩ := exists_at?_of_value? parsed constructed document
    (credentialRoute_ne_nil owner part) (length_credentialRoute owner part) reached scalar typed
  exact ⟨_, value, ⟨bytes, _, read, document, documentOf_of_at? found⟩, found, valued⟩

/-- A credential that is given as a number without quotes, for the listener or in
pool mode for a node, is held as the text of that number.  It is held as it was
written exactly when it was written in the notation of the number. -/
theorem credential?_of_givenAsNumber (loaded : (load tree path).outcome = .ok config)
    (given : GivenAsNumber tree (tidyPath path) owner part text)
    (inPool : ∀ index, owner = .node index → config.mode = poolMode) :
    ∃ held, numberText? text = some held ∧ config.credential? owner part = some held ∧
      (held = text ↔ IsOwnNotation text) := by
  obtain ⟨document, value, holds, found, valued⟩ := given.exists_value
  obtain ⟨key, held, shown, credential⟩ := credential?_of_load loaded holds found inPool
  have number := numberText?_of_asText given.number valued shown
  exact ⟨held, number, credential, eq_text_iff_isOwnNotation number⟩

/-- A password that is written as an octal number, and comes from a merged
mapping. -/
def octalPassword : FileTree :=
  let config := "nodes:\n- &first {uri: s://h:1, password: 01777}\n- {<<: *first, port: 9}\n"
  FileTree.empty.put "c.yaml" (.file (Text.Utf8.encode config.toList))

theorem givenAsNumber_octalPassword :
    GivenAsNumber octalPassword (tidyPath "c.yaml") (.node 1) .password "01777" where
  scalar := Log.exists_ok_of_view (by decide +kernel)
  number := .inl (by decide +kernel)

theorem credential?_of_givenAsNumber_octalPassword :
    GivenAsNumber octalPassword (tidyPath "c.yaml") (.node 1) .password "01777" ∧
      ∃ config, (load octalPassword "c.yaml").outcome = .ok config ∧
        config.mode = poolMode ∧ config.credential? (.node 1) .password = some "1023" := by
  obtain ⟨config, loaded, mode⟩ : ∃ config, (load octalPassword "c.yaml").outcome = .ok config ∧
      config.mode = poolMode := Log.exists_ok_of_view (by decide +kernel)
  obtain ⟨held, number, credential, -⟩ :=
    credential?_of_givenAsNumber loaded givenAsNumber_octalPassword fun _ _ => mode
  have written : numberText? "01777" = some "1023" := by decide +kernel
  rw [written] at number
  cases number
  exact ⟨givenAsNumber_octalPassword, config, loaded, mode, credential⟩

/-- A password that is written as a hexadecimal number. -/
def hexPassword : FileTree :=
  let config := "listener:\n  password: 0x1F\nnodes:\n- uri: s://h:1\n"
  FileTree.empty.put "c.yaml" (.file (Text.Utf8.encode config.toList))

/-- Not every credential that is given as a number is held as it was written. -/
theorem not_kept_hexPassword :
    GivenAsNumber hexPassword (tidyPath "c.yaml") .listener .password "0x1F" ∧
      ∃ config, (load hexPassword "c.yaml").outcome = .ok config ∧
        config.credential? .listener .password ≠ some "0x1F" := by
  have given : GivenAsNumber hexPassword (tidyPath "c.yaml") .listener .password "0x1F" :=
    ⟨Log.exists_ok_of_view (by decide +kernel), .inl (by decide +kernel)⟩
  obtain ⟨config, loaded, held⟩ : ∃ config, (load hexPassword "c.yaml").outcome = .ok config ∧
      config.credential? .listener .password = some "31" :=
    Log.exists_ok_of_view (by decide +kernel)
  exact ⟨given, config, loaded, by rw [held]; decide⟩

end Numbers

end RelayPool.Config
