import Mathlib.Data.List.Forall2
import RelayPool.Proofs.Document.Route
import RelayPool.Proofs.Yaml.ScalarLeaves

/-!
# Scalars in unfolded documents

Unfolding turns the values of nodes into a tree.  A tree that is known and used
again has all the scalars of its node, and every tree has those that are at most
three steps away from the document, where no mark can stand for a collection.
-/

namespace RelayPool.Yaml

/-- The node under a text key. -/
def nodeUnder? (name : String) : List (Document × Nat) → Option Nat
  | [] => none
  | (.text key, node) :: rest => if key = name then some node else nodeUnder? name rest
  | _ :: rest => nodeUnder? name rest

/-- The node to which a step into a value leads. -/
def Shell.step? : RouteStep → Shell → Option Nat
  | .key name, .map entries => nodeUnder? name entries
  | .item place, .list items => items[place]?
  | _, _ => none

/-- The value of a node in the table of values. -/
def shellAt (shells : Array (Option Shell)) (node : Nat) : Option Shell :=
  shells.getD node none

/-- The node at the end of a route that begins at a node. -/
def nodeAt? (shells : Array (Option Shell)) : List RouteStep → Nat → Option Nat
  | [], node => some node
  | step :: rest, node =>
      ((shellAt shells node).bind (Shell.step? step)).bind (nodeAt? shells rest)

theorem mem_of_nodeUnder? {name : String} {entries : List (Document × Nat)} {node : Nat}
    (found : nodeUnder? name entries = some node) : node ∈ entries.map (·.2) := by
  fun_induction nodeUnder? name entries with
  | case1 => cases found
  | case2 => simp_all
  | case3 _ _ _ _ ih => exact List.mem_cons_of_mem _ (ih found)
  | case4 _ _ _ ih => exact List.mem_cons_of_mem _ (ih found)

theorem mem_parts_of_step? {step : RouteStep} {shell : Shell} {node : Nat}
    (stepped : shell.step? step = some node) : node ∈ shell.parts := by
  cases step with
  | key name =>
      cases shell with
      | map entries => exact mem_of_nodeUnder? stepped
      | _ => cases stepped
  | item place =>
      cases shell with
      | list items => exact List.mem_of_getElem? stepped
      | _ => cases stepped

/-- A tree holds the scalars of a node that at most `depth` steps lead to. -/
def FaithfulTo (shells : Array (Option Shell)) (depth node : Nat) (tree : Document) : Prop :=
  ∀ route : List RouteStep, route.length ≤ depth → ∀ last value origin,
    nodeAt? shells route node = some last →
      shellAt shells last = some (.leaf value origin) → tree.at? route = some value

section Faithful

variable {shells : Array (Option Shell)} {node depth : Nat}

theorem faithfulTo_leaf {value : Document} {origin : Nat}
    (given : shellAt shells node = some (.leaf value origin)) :
    FaithfulTo shells depth node value := by
  intro route _ last value' origin' reached leaf
  cases route with
  | nil =>
      cases reached
      rw [given] at leaf
      cases leaf
      rfl
  | cons step rest =>
      rw [nodeAt?, given] at reached
      cases step <;> cases reached

/-- A collection without a way into it holds no scalars at the end of one. -/
theorem faithfulTo_of_closed {tree : Document}
    (closed : ∀ step, (shellAt shells node).bind (Shell.step? step) = none)
    (collection : ∀ value origin, shellAt shells node ≠ some (.leaf value origin)) :
    FaithfulTo shells depth node tree := by
  intro route _ last value origin reached leaf
  cases route with
  | nil =>
      cases reached
      exact absurd leaf (collection value origin)
  | cons step rest =>
      rw [nodeAt?, closed] at reached
      cases reached

theorem faithfulTo_zero {tree : Document}
    (collection : ∀ value origin, shellAt shells node ≠ some (.leaf value origin)) :
    FaithfulTo shells 0 node tree := by
  intro route short last value origin reached leaf
  obtain rfl := List.length_eq_zero_iff.mp (Nat.le_zero.mp short)
  cases reached
  exact absurd leaf (collection value origin)

/-- The mark for a collection has no scalars, and a scalar is its own mark. -/
theorem faithfulTo_again :
    FaithfulTo shells 0 node ((shellAt shells node).getD default).again := by
  cases given : shellAt shells node with
  | none => exact faithfulTo_zero (by rw [given]; rintro _ _ ⟨⟩)
  | some shell =>
      cases shell with
      | leaf value origin => exact faithfulTo_leaf given
      | _ => exact faithfulTo_zero (by rw [given]; rintro _ _ ⟨⟩)

theorem exists_item_of_forall₂ {R : Nat → Document → Prop} {items : List Nat}
    {trees : List Document} (parts : List.Forall₂ R items trees) {place item : Nat}
    (found : items[place]? = some item) :
    ∃ tree, trees[place]? = some tree ∧ R item tree := by
  induction parts generalizing place with
  | nil => cases found
  | @cons first tree rest trees related _ ih =>
      cases place with
      | zero =>
          cases found
          exact ⟨tree, rfl, related⟩
      | succ place => exact ih found

theorem exists_lookup?_of_forall₂ {R : Nat → Document → Prop} {name : String}
    {entries : List (Document × Nat)} {trees : List Document}
    (parts : List.Forall₂ R (entries.map (·.2)) trees) {under : Nat}
    (found : nodeUnder? name entries = some under) :
    ∃ tree, Document.lookup? name ((entries.map (·.1)).zip trees) = some tree ∧
      R under tree := by
  fun_induction nodeUnder? name entries generalizing trees with
  | case1 => cases found
  | case2 node rest =>
      cases found
      cases parts with
      | @cons _ tree _ trees related _ => exact ⟨tree, by simp [Document.lookup?], related⟩
  | case3 key node rest other ih =>
      cases parts with
      | @cons _ tree _ trees _ later =>
          obtain ⟨tree, looked, related⟩ := ih later found
          exact ⟨tree, by simpa [Document.lookup?, other] using looked, related⟩
  | case4 entry rest noText ih =>
      cases parts with
      | @cons _ tree _ trees _ later =>
          obtain ⟨tree, looked, related⟩ := ih later found
          refine ⟨tree, ?_, related⟩
          rw [List.map_cons, List.zip_cons_cons, Document.lookup?, looked]
          exact fun key value same => noText key entry.2 (by cases entry; simp_all)

theorem faithfulTo_list {items : List Nat} {trees : List Document}
    (given : shellAt shells node = some (.list items))
    (parts : List.Forall₂ (FaithfulTo shells depth) items trees) :
    FaithfulTo shells (depth + 1) node (.list trees) := by
  intro route short last value origin reached leaf
  cases route with
  | nil =>
      cases reached
      rw [given] at leaf
      cases leaf
  | cons step rest =>
      rw [nodeAt?, given, Option.bind_some] at reached
      obtain ⟨child, stepped, onward⟩ := Option.bind_eq_some_iff.mp reached
      cases step with
      | key name => cases stepped
      | item place =>
          obtain ⟨tree, placed, faithful⟩ := exists_item_of_forall₂ parts stepped
          have below := faithful rest (Nat.le_of_succ_le_succ short) last value origin onward leaf
          rw [Document.at?, Document.step?, placed, Option.bind_some, below]

theorem faithfulTo_map {entries : List (Document × Nat)} {trees : List Document}
    (given : shellAt shells node = some (.map entries))
    (parts : List.Forall₂ (FaithfulTo shells depth) (entries.map (·.2)) trees) :
    FaithfulTo shells (depth + 1) node (.map ((entries.map (·.1)).zip trees)) := by
  intro route short last value origin reached leaf
  cases route with
  | nil =>
      cases reached
      rw [given] at leaf
      cases leaf
  | cons step rest =>
      rw [nodeAt?, given, Option.bind_some] at reached
      obtain ⟨child, stepped, onward⟩ := Option.bind_eq_some_iff.mp reached
      cases step with
      | key name =>
          obtain ⟨tree, looked, faithful⟩ := exists_lookup?_of_forall₂ parts stepped
          have below := faithful rest (Nat.le_of_succ_le_succ short) last value origin onward leaf
          rw [Document.at?, Document.step?, looked, Option.bind_some, below]
      | item place => cases stepped

end Faithful

/-- Every tree that is known holds all the scalars of its node. -/
def KnownFaithful (shells : Array (Option Shell)) (known : Array (Option Document)) : Prop :=
  ∀ node tree, known.getD node none = some tree →
    ∀ depth, FaithfulTo shells depth node tree

section Unfold

variable {shells : Array (Option Shell)} {known : Array (Option Document)}

theorem KnownFaithful.set {node : Nat} {tree : Document} (faithful : KnownFaithful shells known)
    (own : ∀ depth, FaithfulTo shells depth node tree) :
    KnownFaithful shells (known.setIfInBounds node (some tree)) := by
  intro other found given
  rw [Array.getD_eq_getD_getElem?, Array.getElem?_setIfInBounds] at given
  split at given
  · next same =>
      subst same
      split at given
      · cases given
        exact own
      · cases given
  · rw [← Array.getD_eq_getD_getElem?] at given
    exact faithful other found given

/-- The trees of some nodes hold what the tree of each of them holds, when either
all of them are finished or the nodes are near. -/
theorem unfoldEach_spec {below : Nat → Array (Option Document) → Unfolded Document}
    {Good : Nat → Document → Prop} {near : Prop}
    (each : ∀ node known, KnownFaithful shells known →
      KnownFaithful shells (below node known).known ∧
        ((below node known).finished = true ∨ near → Good node (below node known).tree))
    (nodes : List Nat) (faithful : KnownFaithful shells known) :
    KnownFaithful shells (unfoldEach below nodes known).known ∧
      ((unfoldEach below nodes known).finished = true ∨ near →
        List.Forall₂ Good nodes (unfoldEach below nodes known).tree) := by
  induction nodes generalizing known with
  | nil => exact ⟨faithful, fun _ => .nil⟩
  | cons node rest ih =>
      obtain ⟨firstFaithful, firstGood⟩ := each node known faithful
      obtain ⟨restFaithful, restGood⟩ := ih firstFaithful
      refine ⟨restFaithful, fun reached => ?_⟩
      simp only [unfoldEach, Bool.and_eq_true] at reached ⊢
      exact .cons (firstGood (reached.imp_left And.left)) (restGood (reached.imp_left And.right))

/-- No mark can stand for a collection within `depth` steps from a node. -/
def Near (fuel level : Nat) (path : List Nat) (depth : Nat) : Prop :=
  depth < fuel ∧ level + depth ≤ 3 ∧ (level ≤ 2 → path = [])

theorem Near.below {fuel level depth : Nat} {path : List Nat}
    (near : Near (fuel + 1) level path (depth + 1)) (node : Nat) :
    Near fuel (level + 1) (if level < 2 then [] else node :: path) depth := by
  obtain ⟨fueled, shallow, -⟩ := near
  refine ⟨by omega, by omega, fun top => ?_⟩
  rw [if_pos (by omega)]

/-- What is known of a result stays so when it is remembered. -/
theorem remember_spec {node : Nat} {near : Nat → Prop} {result : Unfolded Document}
    (faithful : KnownFaithful shells result.known)
    (good : ∀ depth, (result.finished = true ∨ near depth) →
      FaithfulTo shells depth node result.tree) :
    KnownFaithful shells (result.remember node).known ∧
      ∀ depth, ((result.remember node).finished = true ∨ near depth) →
        FaithfulTo shells depth node (result.remember node).tree := by
  unfold Unfolded.remember
  split
  · next finished =>
      have always (depth : Nat) := good depth (.inl finished)
      exact ⟨faithful.set always, fun depth _ => always depth⟩
  · exact ⟨faithful, good⟩

/-- One level of a tree, from what holds of the trees below. -/
theorem unfoldWith_spec {below : Nat → Array (Option Document) → Unfolded Document}
    {near : Nat → Prop} (node : Nat)
    (each : ∀ child known, KnownFaithful shells known →
      KnownFaithful shells (below child known).known ∧
        ∀ depth, ((below child known).finished = true ∨ near (depth + 1)) →
          FaithfulTo shells depth child (below child known).tree)
    (faithful : KnownFaithful shells known) :
    let shell := (shellAt shells node).getD default
    KnownFaithful shells (shell.unfoldWith below known).known ∧
      ∀ depth, ((shell.unfoldWith below known).finished = true ∨ near depth) →
        FaithfulTo shells depth node (shell.unfoldWith below known).tree := by
  have parts (nodes : List Nat) {known} (faithful : KnownFaithful shells known) (depth : Nat) :=
    unfoldEach_spec (fun child known faithful =>
      (each child known faithful).imp_right fun good => good depth) nodes faithful
  cases given : shellAt shells node with
  | none =>
      refine ⟨faithful, fun depth _ => faithfulTo_of_closed ?_ ?_⟩
      · rw [given]
        exact fun _ => rfl
      · rw [given]
        rintro _ _ ⟨⟩
  | some shell =>
      cases shell with
      | leaf value origin => exact ⟨faithful, fun depth _ => faithfulTo_leaf given⟩
      | list items =>
          refine ⟨(parts items faithful 0).1, fun depth reached => ?_⟩
          cases depth with
          | zero => exact faithfulTo_zero (by rw [given]; rintro _ _ ⟨⟩)
          | succ depth => exact faithfulTo_list given ((parts items faithful depth).2 reached)
      | pairs entries =>
          have keysFaithful := (parts (entries.map Prod.fst) faithful 0).1
          have valuesFaithful := (parts (entries.map Prod.snd) keysFaithful 0).1
          refine ⟨valuesFaithful, fun depth _ => ?_⟩
          apply faithfulTo_of_closed
          · rw [given]
            rintro (_ | _) <;> rfl
          · rw [given]
            rintro _ _ ⟨⟩
      | set members =>
          refine ⟨faithful, fun depth _ => faithfulTo_of_closed ?_ ?_⟩
          · rw [given]
            rintro (_ | _) <;> rfl
          · rw [given]
            rintro _ _ ⟨⟩
      | map entries =>
          refine ⟨(parts (entries.map Prod.snd) faithful 0).1, fun depth reached => ?_⟩
          cases depth with
          | zero => exact faithfulTo_zero (by rw [given]; rintro _ _ ⟨⟩)
          | succ depth =>
              exact faithfulTo_map given
                ((parts (entries.map Prod.snd) faithful depth).2 reached)

theorem unfold_spec (fuel level : Nat) (path : List Nat) (node : Nat)
    (faithful : KnownFaithful shells known) :
    KnownFaithful shells (unfold shells fuel level path node known).known ∧
      ∀ depth, ((unfold shells fuel level path node known).finished = true ∨
        Near fuel level path depth) →
        FaithfulTo shells depth node (unfold shells fuel level path node known).tree := by
  induction fuel generalizing level path node known with
  | zero =>
      refine ⟨faithful, ?_⟩
      rintro depth (⟨⟨⟩⟩ | ⟨fueled, -⟩)
      omega
  | succ fuel ih =>
      rw [unfold]
      split
      · next tree given => exact ⟨faithful, fun depth _ => faithful node tree given depth⟩
      · simp only
        split
        · next again =>
            refine ⟨faithful, ?_⟩
            rintro depth (⟨⟨⟩⟩ | ⟨-, shallow, atTop⟩)
            have inside : path ≠ [] := by
              rintro rfl
              cases again
            have deep : ¬ level ≤ 2 := fun top => inside (atTop top)
            obtain rfl : depth = 0 := by omega
            exact faithfulTo_again
        · -- The children are a level deeper, and the node is on their path below the top.
          have one := unfoldWith_spec node (fun child known faithful =>
            (ih (level + 1) (if level < 2 then [] else node :: path) child faithful).imp_right
              fun good depth reached => good depth (reached.imp_right (Near.below · node)))
            faithful
          exact remember_spec one.1 one.2

theorem size_pos_of_shellAt {node : Nat} {shell : Shell}
    (given : shellAt shells node = some shell) : 0 < shells.size := by
  by_contra empty
  have outside : shells.size ≤ node := by omega
  rw [shellAt, Array.getD_eq_getD_getElem?, Array.getElem?_eq_none outside] at given
  cases given

/-- The document of a graph has the value of every scalar to which at most three
steps lead. -/
theorem at?_unfold {route : List RouteStep} {root last : Nat} {value : Document}
    {origin : Nat} (short : route.length ≤ 3)
    (reached : nodeAt? shells route root = some last)
    (leaf : shellAt shells last = some (.leaf value origin)) :
    (unfold shells (shells.size + 3) 0 [] root
      (Array.replicate shells.size none)).tree.at? route = some value := by
  have nothingKnown : KnownFaithful shells (Array.replicate shells.size none) := by
    intro node tree given
    rw [Array.getD_eq_getD_getElem?, Array.getElem?_replicate] at given
    split at given <;> cases given
  have present := size_pos_of_shellAt leaf
  have near : Near (shells.size + 3) 0 [] route.length :=
    ⟨by omega, by omega, fun _ => rfl⟩
  have faithful := (unfold_spec (shells.size + 3) 0 [] root nothingKnown).2 _ (.inr near)
  exact faithful route (Nat.le_refl _) last value origin reached leaf

end Unfold

section Values

variable {source : Source} {graph : Graph} {state : Construction} {route : List RouteStep}
  {node : Nat} {tag : Tag} {text : String}

theorem exists_holder_of_nodeAt? {shells : Array (Option Shell)} {first : Nat}
    (inside : route ≠ []) (reached : nodeAt? shells route first = some node) :
    ∃ holder shell, shellAt shells holder = some shell ∧ node ∈ shell.parts := by
  induction route generalizing first with
  | nil => exact absurd rfl inside
  | cons step rest ih =>
      obtain ⟨child, found, onward⟩ := Option.bind_eq_some_iff.mp reached
      obtain ⟨shell, given, stepped⟩ := Option.bind_eq_some_iff.mp found
      cases rest with
      | nil =>
          cases onward
          exact ⟨first, shell, given, mem_parts_of_step? stepped⟩
      | cons next rest => exact ih (List.cons_ne_nil _ _) onward

theorem value?_of_constructed (parsed : Graph.ofSource? source = .ok (some graph))
    (constructed : Construction.ofGraph graph = .ok state) :
    source.value? = .ok (some (unfold state.shells (state.shells.size + 3) 0 [] graph.root
      (Array.replicate state.shells.size none)).tree) := by
  rw [Source.value?, parsed]
  change (Construction.ofGraph graph >>= _) = _
  rw [constructed]
  rfl

/-- A scalar in a document, at most three steps inside, stands in its value as the
value of its text. -/
theorem exists_at?_of_value? {document : Document}
    (parsed : Graph.ofSource? source = .ok (some graph))
    (constructed : Construction.ofGraph graph = .ok state)
    (valued : source.value? = .ok (some document)) (inside : route ≠ [])
    (short : route.length ≤ 3) (reached : nodeAt? state.shells route graph.root = some node)
    (scalar : graph.nodes[node]? = some ⟨tag, .scalar text⟩) (typed : tag ∈ scalarTags) :
    ∃ value, Scalar.value tag text = .ok value ∧ document.at? route = some value := by
  obtain ⟨holder, shell, given, member⟩ := exists_holder_of_nodeAt? inside reached
  obtain ⟨value, origin, leaf, read⟩ :=
    Construction.exists_leaf_of_ofGraph typed scalar constructed given member
  refine ⟨value, read, ?_⟩
  have unfolded := at?_unfold short reached leaf
  rw [value?_of_constructed parsed constructed] at valued
  cases valued
  exact unfolded

end Values

end RelayPool.Yaml
