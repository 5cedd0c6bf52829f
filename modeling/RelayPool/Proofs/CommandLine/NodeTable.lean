import RelayPool.Proofs.CommandLine.Exit
import RelayPool.Proofs.Number.DecimalNotation
import RelayPool.Proofs.Text.Separated

/-!
# The table of nodes

The table has a row for each node behind its header.  Names fit into their column,
as it is as wide as the longest of them, and ports fit into theirs, as no resolved
port has more than five digits, so the columns of all rows are the same.  A row is
one line unless the name or the URI of its node holds a line feed, which is printed
as it is.
-/

namespace RelayPool.CommandLine

/-- The width of the column of names: that of the longest name, and at least that of
the header. -/
structure IsNameWidth (nodes : List Node) (width : Nat) : Prop where
  header_fits : 4 ≤ width
  fits : ∀ node ∈ nodes, node.name.length ≤ width
  attained : width = 4 ∨ ∃ node ∈ nodes, node.name.length = width

/-- A row of the table: a name filled up to the width, a port at the right end of
five columns, and a URI, with two spaces between them. -/
structure IsRow (width : Nat) (name port uri : String) (row : List Char) : Prop where
  name_fits : name.length ≤ width
  port_fits : port.length ≤ 5
  row_eq :
    row =
      name.toList ++ List.replicate (width - name.length) ' ' ++ [' ', ' '] ++
        (List.replicate (5 - port.length) ' ' ++ port.toList) ++ [' ', ' '] ++ uri.toList
  port_column :
    (row.drop (width + 2)).take 5 = List.replicate (5 - port.length) ' ' ++ port.toList

/-- Rows for nodes, in order. -/
abbrev AreNodeRows (width : Nat) : List Node → List (List Char) → Prop :=
  List.Forall₂ fun node => IsRow width node.name (Number.intText node.port) node.uri

/-- Rows for the header and for each of the nodes, in order. -/
inductive AreRows (nodes : List Node) : List (List Char) → Prop
  | header {width : Nat} {header : List Char} {rows : List (List Char)}
      (isWidth : IsNameWidth nodes width) (first : IsRow width "NAME" "PORT" "URI" header)
      (others : AreNodeRows width nodes rows) : AreRows nodes (header :: rows)

/-- A text that falls into one line for the header and one for each node, all of them
ended by line feeds. -/
def IsTable (nodes : List Node) (text : List Char) : Prop :=
  ∃ rows, AreRows nodes rows ∧ Text.separate '\n' text = rows ++ [[]]

/-- The line feeds in the names and the URIs of nodes. -/
def lineFeeds (nodes : List Node) : Nat :=
  (nodes.map fun node => node.name.toList.count '\n' + node.uri.toList.count '\n').sum

section Columns

variable {width : Nat} {name port uri : String} {row : List Char} {nodes : List Node}

theorem isNameWidth_nameWidth (nodes : List Node) : IsNameWidth nodes (nameWidth nodes) := by
  have widest (start : Nat) :
      let width := nodes.foldl (fun width node => max width node.name.length) start
      start ≤ width ∧ (∀ node ∈ nodes, node.name.length ≤ width) ∧
        (width = start ∨ ∃ node ∈ nodes, node.name.length = width) := by
    induction nodes generalizing start with
    | nil => simp
    | cons node rest ih =>
        obtain ⟨above, fits, attained⟩ := ih (max start node.name.length)
        rw [List.foldl_cons]
        refine ⟨by omega, List.forall_mem_cons.mpr ⟨by omega, fits⟩, ?_⟩
        rcases attained with same | ⟨longest, member, length⟩
        · rcases Nat.le_total node.name.length start with shorter | longer
          · left
            rw [same, Nat.max_eq_left shorter]
          · right
            refine ⟨node, List.mem_cons_self, ?_⟩
            rw [same, Nat.max_eq_right longer]
        · exact .inr ⟨longest, List.mem_cons_of_mem node member, length⟩
  obtain ⟨header_fits, fits, attained⟩ := widest "NAME".length
  exact ⟨header_fits, fits, attained⟩

theorem isRow_tableLine (nameFits : name.length ≤ width) (portFits : port.length ≤ 5) :
    IsRow width name port uri (tableLine width name port uri).toList := by
  have row_eq : (tableLine width name port uri).toList =
      name.toList ++ List.replicate (width - name.length) ' ' ++ [' ', ' '] ++
        (List.replicate (5 - port.length) ' ' ++ port.toList) ++ [' ', ' '] ++ uri.toList := by
    simp [tableLine, padRight, padLeft]
  have front : (name.toList ++ List.replicate (width - name.length) ' ' ++ [' ', ' ']).length =
      width + 2 := by
    simp only [List.length_append, String.length_toList, List.length_replicate,
      List.length_cons, List.length_nil]
    omega
  have column : (List.replicate (5 - port.length) ' ' ++ port.toList).length = 5 := by
    rw [List.length_append, List.length_replicate, String.length_toList]
    omega
  refine ⟨nameFits, portFits, row_eq, ?_⟩
  rw [row_eq, List.append_assoc _ _ uri.toList, List.append_assoc _ _ ([' ', ' '] ++ uri.toList),
    List.drop_left' front, List.take_left' column]

theorem intText_of_isBindable {port : Int} (bindable : IsBindable port) :
    (Number.intText port).length ≤ 5 ∧ '\n' ∉ (Number.intText port).toList := by
  obtain ⟨value, rfl⟩ := Int.eq_ofNat_of_zero_le (show 0 ≤ port by have := bindable.1; omega)
  have small : value < 10 ^ 5 := by
    have highest : (value : Int) ≤ 65535 := bindable.2
    omega
  rw [← String.length_toList, Number.intText_natCast]
  refine ⟨(Nat.length_toDigits_le_iff (by decide) (by decide)).mpr small, fun member => ?_⟩
  exact absurd (Nat.isDigit_of_mem_toDigits (by decide) (by decide) member) (by decide)

theorem areRows_tableLines (bindable : ∀ node ∈ nodes, IsBindable node.port) :
    AreRows nodes ((tableLines nodes).map String.toList) := by
  have isWidth := isNameWidth_nameWidth nodes
  refine .header isWidth (isRow_tableLine isWidth.header_fits (by decide)) ?_
  rw [AreNodeRows, List.map_map, List.forall₂_map_right_iff, List.forall₂_same]
  intro node member
  exact isRow_tableLine (isWidth.fits node member)
    (intText_of_isBindable (bindable node member)).1

end Columns

section Lines

variable {width : Nat} {nodes : List Node} {rows : List (List Char)}

theorem toList_printed (lines : List String) :
    (printed lines).toList = (lines.map String.toList).flatMap (· ++ ['\n']) := by
  rw [printed, String.toList_join, List.flatMap_map, List.flatMap_map]
  exact List.flatMap_congr fun line _ => String.toList_append

theorem lineFeeds_eq_zero_iff :
    lineFeeds nodes = 0 ↔
      ∀ node ∈ nodes, '\n' ∉ node.name.toList ∧ '\n' ∉ node.uri.toList := by
  rw [lineFeeds, List.sum_eq_zero_iff_forall_eq_nat, List.forall_mem_map]
  simp only [Nat.add_eq_zero_iff, List.count_eq_zero]

theorem IsRow.count_lineFeed {name port uri : String} {row : List Char}
    (isRow : IsRow width name port uri row) (plain : '\n' ∉ port.toList) :
    row.count '\n' = name.toList.count '\n' + uri.toList.count '\n' := by
  rw [isRow.row_eq]
  simp [List.count_append, List.count_replicate, List.count_eq_zero.mpr plain]

theorem sum_lineFeeds_nodeRows (areRows : AreNodeRows width nodes rows)
    (bindable : ∀ node ∈ nodes, IsBindable node.port) :
    (rows.map (·.count '\n')).sum = lineFeeds nodes := by
  induction areRows with
  | nil => rfl
  | @cons node row nodes rows isRow others ih =>
      obtain ⟨first, rest⟩ := List.forall_mem_cons.mp bindable
      have inRow := isRow.count_lineFeed (intText_of_isBindable first).2
      have behind := ih rest
      rw [lineFeeds] at behind ⊢
      rw [List.map_cons, List.sum_cons, inRow, behind, List.map_cons, List.sum_cons]

theorem sum_lineFeeds_rows (areRows : AreRows nodes rows)
    (bindable : ∀ node ∈ nodes, IsBindable node.port) :
    (rows.map (·.count '\n')).sum = lineFeeds nodes := by
  cases areRows with
  | header isWidth first others =>
      have inHeader := first.count_lineFeed (by decide)
      have none : "NAME".toList.count '\n' + "URI".toList.count '\n' = 0 := by decide
      rw [List.map_cons, List.sum_cons, inHeader, none, sum_lineFeeds_nodeRows others bindable,
        Nat.zero_add]

theorem AreRows.length_eq (areRows : AreRows nodes rows) : rows.length = nodes.length + 1 := by
  cases areRows with
  | header isWidth first others => rw [List.length_cons, others.length_eq]

/-- There is a line for every row, one more for every line feed in a name or a URI,
and nothing behind the last line feed. -/
theorem length_separate_rows (areRows : AreRows nodes rows)
    (bindable : ∀ node ∈ nodes, IsBindable node.port) :
    (Text.separate '\n' (rows.flatMap (· ++ ['\n']))).length =
      nodes.length + 1 + lineFeeds nodes + 1 := by
  rw [Text.length_separate, Text.count_flatMap, areRows.length_eq,
    sum_lineFeeds_rows areRows bindable]

theorem isTable_rows_iff (areRows : AreRows nodes rows)
    (bindable : ∀ node ∈ nodes, IsBindable node.port) :
    IsTable nodes (rows.flatMap (· ++ ['\n'])) ↔
      ∀ node ∈ nodes, '\n' ∉ node.name.toList ∧ '\n' ∉ node.uri.toList := by
  rw [← lineFeeds_eq_zero_iff]
  constructor
  · rintro ⟨lines, areLines, separated⟩
    have count := length_separate_rows areRows bindable
    rw [separated, List.length_append, List.length_singleton, areLines.length_eq] at count
    omega
  · intro none
    have unbroken := sum_lineFeeds_rows areRows bindable
    rw [none, List.sum_eq_zero_iff_forall_eq_nat, List.forall_mem_map] at unbroken
    refine ⟨rows, areRows, Text.separate_flatMap fun row member => ?_⟩
    exact List.count_eq_zero.mp (unbroken row member)

end Lines

section Runs

variable {tree : FileTree} {path : String} {config : Config}

theorem output_run_nodes (plain : IsPlain path)
    (loaded : (Config.load tree path).outcome = .ok config) (verbose : Bool) :
    (run tree (.ofWords (commandWords .nodes path verbose false))).output =
      printed (tableLines config.nodes) := by
  rw [ofWords_commandWords .nodes verbose false plain]
  have tidy : (Config.loadTidy tree (tidyPath path)).outcome = .ok config := loaded
  simp only [run, runCommand, commandRun, tidy, commandLines?]
  rfl

theorem bindable_of_load (loaded : (Config.load tree path).outcome = .ok config) :
    ∀ node ∈ config.nodes, IsBindable node.port := by
  obtain ⟨document, decoded, loads⟩ := Config.outcome_loadTidy_eq_ok_iff.mp loaded
  exact fun node member =>
    ((Config.resolved_of_loads loads).nodes_resolved node member).port_bindable

end Runs

/-- The nodes of a configuration that loads are printed in rows with common columns,
each ended by a line feed.  The text has a line for every row, and is a table, unless
a name or a URI holds line feeds, which bring one line more each. -/
theorem isTable_iff_unbroken {tree : FileTree} {path : String} {config : Config}
    (plain : IsPlain path) (loaded : (Config.load tree path).outcome = .ok config)
    (verbose : Bool) :
    let output := (run tree (.ofWords (commandWords .nodes path verbose false))).output.toList
    (∃ rows, AreRows config.nodes rows ∧ output = rows.flatMap (· ++ ['\n'])) ∧
      (Text.separate '\n' output).length = config.nodes.length + 1 + lineFeeds config.nodes + 1 ∧
      (IsTable config.nodes output ↔
        ∀ node ∈ config.nodes, '\n' ∉ node.name.toList ∧ '\n' ∉ node.uri.toList) := by
  have bindable := bindable_of_load loaded
  have areRows := areRows_tableLines bindable
  dsimp only
  rw [output_run_nodes plain loaded, toList_printed]
  exact ⟨⟨_, areRows, rfl⟩, length_separate_rows areRows bindable,
    isTable_rows_iff areRows bindable⟩

theorem isTable_iff_unbroken_lastPortTree :
    ∃ config, (Config.load Config.lastPortTree "c.yaml").outcome = .ok config ∧
      config.nodes.length = 2 ∧
        IsTable config.nodes
          (run Config.lastPortTree
            (.ofWords (commandWords .nodes "c.yaml" true false))).output.toList := by
  obtain ⟨config, loaded, nodes⟩ : ∃ config,
      (Config.load Config.lastPortTree "c.yaml").outcome = .ok config ∧
        config.nodes.map (fun node => (node.name, node.uri)) =
          [("node-0", "a"), ("Oslo", "s://h:2#Oslo")] :=
    Log.exists_ok_of_view (by decide +kernel)
  obtain ⟨-, -, iff⟩ := isTable_iff_unbroken (by decide) loaded true
  refine ⟨config, loaded, ?_, iff.mpr ?_⟩
  · simpa using congrArg List.length nodes
  · have plain : ∀ pair ∈ [("node-0", "a"), ("Oslo", "s://h:2#Oslo")],
        '\n' ∉ pair.1.toList ∧ '\n' ∉ pair.2.toList := by decide +kernel
    rw [← nodes, List.forall_mem_map] at plain
    exact plain

/-- A node whose URI writes a line feed into its name. -/
def brokenName : FileTree :=
  FileTree.empty.put "c.yaml"
    (.file (Text.Utf8.encode "nodes:\n- uri: s://h:1#a%0Ab\n".toList))

theorem not_isTable_brokenName :
    ∃ config, (Config.load brokenName "c.yaml").outcome = .ok config ∧
      ¬ IsTable config.nodes
        (run brokenName (.ofWords (commandWords .nodes "c.yaml" false false))).output.toList := by
  obtain ⟨config, loaded, names⟩ : ∃ config,
      (Config.load brokenName "c.yaml").outcome = .ok config ∧
        config.nodes.map (fun node => node.name) = ["a\nb"] :=
    Log.exists_ok_of_view (by decide +kernel)
  have bindable := bindable_of_load loaded
  refine ⟨config, loaded, ?_⟩
  rw [output_run_nodes (by decide) loaded, toList_printed,
    isTable_rows_iff (areRows_tableLines bindable) bindable]
  intro unbroken
  have plain : ∀ name ∈ config.nodes.map (fun node => node.name), '\n' ∉ name.toList :=
    List.forall_mem_map.mpr fun node member => (unbroken node member).1
  rw [names] at plain
  exact plain "a\nb" List.mem_cons_self (by decide)

end RelayPool.CommandLine
