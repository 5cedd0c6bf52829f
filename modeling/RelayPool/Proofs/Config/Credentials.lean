import RelayPool.Proofs.Config.Decoding
import RelayPool.Proofs.Config.ListedNodes
import RelayPool.Proofs.Config.ResolvedNodes
import RelayPool.Proofs.Config.SchemaChecks
import RelayPool.Proofs.Document.Route

/-!
# Credentials

The user name and the password of the listener and of every node, where a
document gives them, and what becomes of them when it is read and resolved.
-/

namespace RelayPool

/-- What has a user name and a password. -/
inductive CredentialOwner
  | listener
  | node (index : Nat)
  deriving DecidableEq, Repr

/-- The two parts of credentials. -/
inductive CredentialPart
  | username
  | password
  deriving DecidableEq, Repr

def CredentialPart.key : CredentialPart → String
  | .username => "username"
  | .password => "password"

def CredentialPart.ofListener (listener : Listener) : CredentialPart → String
  | .username => listener.username
  | .password => listener.password

def CredentialPart.ofNode (node : Node) : CredentialPart → String
  | .username => node.username
  | .password => node.password

namespace Config

/-- Where a document gives a credential. -/
def credentialRoute (owner : CredentialOwner) (part : CredentialPart) : List RouteStep :=
  match owner with
  | .listener => [.key "listener", .key part.key]
  | .node index => [.key "nodes", .item index, .key part.key]

/-- A credential of a configuration, if its owner is there. -/
def credential? (config : Config) (owner : CredentialOwner) (part : CredentialPart) :
    Option String :=
  match owner with
  | .listener => some (part.ofListener config.listener)
  | .node index => config.nodes[index]?.map part.ofNode

open Log (bind_eq_ok_iff pure_eq_ok_iff Reported)

section Decoded

variable {entries : Entries} {value : Document} {part : CredentialPart}

theorem read_of_readPart {α : Type} {known : List String}
    {read : String → Entries → Except DecodeFault α} {scope : String} {result : α}
    (done : (readPart known read scope (some (.map entries))).outcome = .ok result) :
    read scope entries = .ok result := by
  obtain ⟨found, sectionRead, partRead⟩ := Reported.outcome_bind_eq_ok_iff.mp done
  have same := entriesOf_of_asEntries (asEntries_of_readSection sectionRead)
  rw [← same] at partRead
  exact partRead

theorem asText_of_listenerOfEntries {scope : String} {listener : Listener}
    (read : listenerOfEntries scope entries = .ok listener) :
    setting asText scope entries part.key = .ok (part.ofListener listener) := by
  simp only [listenerOfEntries, bind_eq_ok_iff, pure_eq_ok_iff] at read
  obtain ⟨_, -, _, -, username, usernameRead, password, passwordRead, rfl⟩ := read
  cases part with
  | username => exact usernameRead
  | password => exact passwordRead

theorem asText_of_nodeOfEntries {scope : String} {node : Node}
    (read : nodeOfEntries scope entries = .ok node) :
    setting asText scope entries part.key = .ok (part.ofNode node) := by
  simp only [nodeOfEntries, bind_eq_ok_iff, pure_eq_ok_iff] at read
  obtain ⟨_, -, _, -, _, -, username, usernameRead, password, passwordRead, rfl⟩ := read
  cases part with
  | username => exact usernameRead
  | password => exact passwordRead

theorem exists_node_of_readNodes {items : List Document} {nodes : List Node} {index : Nat}
    (read : (readNodes index items).outcome = .ok nodes) {place : Nat} {item : Document}
    (found : items[place]? = some item) :
    ∃ node, nodes[place]? = some node ∧
      (readPart nodeKeys nodeOfEntries (nodeKey (index + place)) (some item)).outcome =
        .ok node := by
  induction items generalizing index nodes place with
  | nil => cases found
  | cons first rest ih =>
      obtain ⟨node, nodeRead, read⟩ := Reported.outcome_bind_eq_ok_iff.mp read
      obtain ⟨others, othersRead, result⟩ := Reported.outcome_bind_eq_ok_iff.mp read
      cases result
      cases place with
      | zero =>
          cases found
          exact ⟨node, rfl, nodeRead⟩
      | succ place =>
          rw [← Nat.add_assoc, Nat.add_right_comm]
          exact ih othersRead found

/-- A credential that a document gives is read as a text. -/
theorem credential?_of_ofDocument {document : Document} {config : Config}
    {owner : CredentialOwner} (decoded : (ofDocument document).outcome = .ok config)
    (given : document.at? (credentialRoute owner part) = some value) :
    ∃ key text, asText key (some value) = .ok text ∧
      config.credential? owner part = some text := by
  cases owner with
  | listener =>
      obtain ⟨entries, inner, rfl, found, given⟩ := Document.at?_key given
      obtain ⟨settings, inner, rfl, looked, given⟩ := Document.at?_key given
      cases given
      have listenerRead := (partsRead_of_ofEntries decoded).listener
      rw [found] at listenerRead
      have read : setting asText "listener" settings part.key =
          .ok (part.ofListener config.listener) :=
        asText_of_listenerOfEntries (read_of_readPart listenerRead)
      rw [setting, looked] at read
      exact ⟨_, _, read, rfl⟩
  | node index =>
      obtain ⟨entries, inner, rfl, found, given⟩ := Document.at?_key given
      obtain ⟨items, inner, rfl, placed, given⟩ := Document.at?_item given
      obtain ⟨settings, inner, rfl, looked, given⟩ := Document.at?_key given
      cases given
      obtain ⟨_, itemsRead, nodesRead⟩ := (partsRead_of_ofEntries decoded).nodes
      rw [found] at itemsRead
      cases itemsRead
      obtain ⟨node, there, nodeRead⟩ := exists_node_of_readNodes nodesRead placed
      have read : setting asText (nodeKey (0 + index)) settings part.key =
          .ok (part.ofNode node) := asText_of_nodeOfEntries (read_of_readPart nodeRead)
      rw [setting, looked] at read
      exact ⟨_, _, read, by simp [credential?, there]⟩

end Decoded

section Loaded

variable {tree : FileTree} {decoded : Config} {owner : CredentialOwner}
  {part : CredentialPart} {text : String}

/-- Resolving keeps the credentials of the listener, and in pool mode those of
every node that stood in the configuration. -/
theorem credential?_of_resolve (success : (resolve tree decoded).fault = none)
    (inPool : ∀ index, owner = .node index → (resolve tree decoded).config.mode = poolMode)
    (given : decoded.credential? owner part = some text) :
    (resolve tree decoded).config.credential? owner part = some text := by
  obtain ⟨mode, raw, resolvable⟩ := exists_resolvable_of_success success
  rw [(resolve_of_resolvable resolvable).1] at inPool ⊢
  cases owner with
  | listener => cases part <;> exact given
  | node index =>
      obtain ⟨node, stood, same⟩ := Option.map_eq_some_iff.mp given
      obtain ⟨listed, -, rfl⟩ := mergedNodes_eq_ok_iff.mp resolvable.merged
      have inside : index < decoded.nodes.length := (List.getElem?_eq_some_iff.mp stood).1
      have found := getElem?_settledNodes
        (nodeSettings (completed mode decoded (decoded.nodes ++ listed))) 0
        (firstPort decoded) (decoded.nodes ++ listed) index
      rw [List.getElem?_append_left inside, stood, Option.map_some, Nat.zero_add] at found
      have settled := settledFrom_settledNode mode decoded (decoded.nodes ++ listed) index node
      have single : ¬ ((resolvedConfig mode decoded (decoded.nodes ++ listed)).mode =
          multiPortMode ∧ node.username = "") := by
        rw [inPool index rfl]
        exact fun each => absurd each.1 (by decide)
      have kept := settled.credentials_eq
      rw [if_neg single, Prod.mk.injEq] at kept
      apply Option.map_eq_some_iff.mpr
      refine ⟨_, found, ?_⟩
      cases part with
      | username => exact kept.1.trans same
      | password => exact kept.2.trans same

/-- A loaded configuration holds the text of every credential that its document
gives; of those of a node where it is in pool mode. -/
theorem credential?_of_load {path : String} {document value : Document} {config : Config}
    (loaded : (load tree path).outcome = .ok config)
    (holds : Holds tree (tidyPath path) document)
    (given : document.at? (credentialRoute owner part) = some value)
    (inPool : ∀ index, owner = .node index → config.mode = poolMode) :
    ∃ key text, asText key (some value) = .ok text ∧
      config.credential? owner part = some text := by
  rw [load, outcome_loadTidy_of_holds holds] at loaded
  split at loaded
  · cases loaded
  · next decoded accepted =>
      obtain ⟨key, text, read, credential⟩ := credential?_of_ofDocument accepted given
      rw [outcome_resolved] at loaded
      split at loaded
      · cases loaded
      · next success =>
          cases loaded
          exact ⟨key, text, read, credential?_of_resolve success inPool credential⟩

end Loaded

end Config

end RelayPool
