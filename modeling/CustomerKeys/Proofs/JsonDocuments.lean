import CustomerKeys.Proofs.ExtendedDocuments
import CustomerKeys.Proofs.JsonScalars

/-!
# Written JSON documents read back

Lists and tables are written with a line for each piece, indented by their level. The reader skips
the indentation, so the level makes no difference to what is read: a list comes back with its items
and a table with its entries, each read by the reader of what it is.

The entries of a table come back sorted by name. A document is therefore not always read as itself,
but as what `sorted` makes of it, and that differs only in the order of fields. Decoders do not look
at that order: what is read back is an extension of what was written, with no field added.

Documents that can be faithfully written hold integers of 64 bits, no other numbers and no dates,
name their fields apart, and nest no deeper than the reader goes.
-/

namespace CustomerKeys.Json

open CustomerKeys.Text (Reader)

/-- A bracket behind which a list or a table ends. -/
def closesPieces (c : Char) : Bool := c = ']' || c = '\x7d'

/-- The brackets that close are not taken for the beginning of a piece, nor for blanks or commas. -/
theorem closing_apart {closing : Char} (closes : closesPieces closing = true) :
    beginsValue closing = false ∧ closing ≠ ',' ∧
      ∀ rest, skipBlanks (closing :: rest) = closing :: rest := by
  simp only [closesPieces, Bool.or_eq_true, decide_eq_true_eq] at closes
  rcases closes with rfl | rfl
  all_goals exact ⟨by decide, by decide, fun _ => rfl⟩

/-- The beginning of a line is skipped, however far the line is set in. -/
theorem skip_blanks_newline (level : Nat) (rest : List Char) :
    skipBlanks ((newline level).toList ++ rest) = skipBlanks rest := by
  have indentation : ∀ count, skipBlanks (List.replicate count ' ' ++ rest) = skipBlanks rest := by
    intro count
    induction count with
    | zero => rfl
    | succ count inductionHypothesis => exact inductionHypothesis
  rw [newline, String.toList_ofList]
  exact indentation (2 * level)

/-- The lines of pieces behind the first one, down to the bracket that closes them. Each begins
behind the comma of the piece before. -/
def laterLines (level : Nat) (closing : Char) (pieces : List (List Char)) (rest : List Char) :
    List Char :=
  pieces.foldr (fun piece rest => ',' :: ((newline (level + 1)).toList ++ (piece ++ rest)))
    ((newline level).toList ++ closing :: rest)

/-- What stands behind a piece ends it: a comma before the next, or the end of its line before the
bracket. -/
theorem ends_value_of_lines (level : Nat) (closing : Char) (pieces : List (List Char))
    (rest : List Char) : EndsValue (laterLines level closing pieces rest) := by
  cases pieces with
  | nil =>
    rw [laterLines, List.foldr_nil, newline, String.toList_ofList]
    exact .newline _
  | cons piece pieces => exact .comma _

/-- Lines joined by commas are the first of them with the later lines behind it. -/
theorem to_list_intercalate_lines (level : Nat) (closing : Char) (piece : String)
    (pieces : List String) (rest : List Char) :
    (String.intercalate "," ((piece :: pieces).map fun piece => newline (level + 1) ++ piece) ++
        newline level).toList ++ closing :: rest =
      (newline (level + 1)).toList ++
        (piece.toList ++ laterLines level closing (pieces.map String.toList) rest) := by
  have comma : ",".toList = [','] := rfl
  induction pieces generalizing piece with
  | nil => simp [laterLines]
  | cons next pieces inductionHypothesis =>
    have further := inductionHypothesis next
    rw [List.map_cons] at further
    rw [List.map_cons, List.map_cons, String.intercalate_cons_cons, List.map_cons, laterLines,
      List.foldr_cons, ← laterLines, ← further]
    simp [comma]

/-- Pieces between brackets, as the reader sees them: the opening bracket, the line of the first
piece and the lines of the later ones. -/
theorem to_list_bracketed (level : Nat) {opening closing : String} {first last : Char}
    (opens : opening.toList = [first]) (closes : closing.toList = [last]) (piece : String)
    (pieces : List String) (rest : List Char) :
    (bracketed level opening closing (piece :: pieces)).toList ++ rest =
      first :: ((newline (level + 1)).toList ++
        (piece.toList ++ laterLines level last (pieces.map String.toList) rest)) := by
  rw [← to_list_intercalate_lines]
  simp [bracketed, opens, closes]

section Pieces

variable {α : Type} {item : Reader α}

/-- The indentation before a piece is skipped, and nothing of the piece. -/
theorem ReadsAs.skip_newline {piece : List Char} {found : α} (reads : ReadsAs item piece found)
    (level : Nat) (rest : List Char) :
    skipBlanks ((newline level).toList ++ (piece ++ rest)) = piece ++ rest := by
  obtain ⟨mark, more, rfl, begins⟩ := reads.begins
  rw [skip_blanks_newline, List.cons_append, skip_blanks_of_begins begins]

variable {closing : Char} (closes : closesPieces closing = true)

include closes

/-- Pieces on lines of their own are read one after the other, up to the bracket that closes them.
The induction is on the pieces behind the first, so that each step reads one piece and finds either
the bracket or the comma before the next. -/
theorem further_lines (level : Nat) {piece : List Char} {found : α} {pieces : List (List Char)}
    {others : List α} (first : ReadsAs item piece found)
    (later : List.Forall₂ (ReadsAs item) pieces others) (rest : List Char) :
    (listing closing).further item
        ((newline (level + 1)).toList ++ (piece ++ laterLines level closing pieces rest)) =
      some (found :: others, rest) := by
  obtain ⟨-, uncomma, stays⟩ := closing_apart closes
  induction later generalizing piece found with
  | nil =>
    have read := first.reads _ (ends_value_of_lines level closing [] rest)
    have behind : skipBlanks (laterLines level closing [] rest) = closing :: rest := by
      rw [laterLines, List.foldr_nil, skip_blanks_newline, stays]
    rw [Text.Listing.further]
    simp only [listing, first.skip_newline, read, behind, if_true]
  | @cons next value pieces others reads _ inductionHypothesis =>
    have read := first.reads _ (ends_value_of_lines level closing (next :: pieces) rest)
    let behind := (newline (level + 1)).toList ++ (next ++ laterLines level closing pieces rest)
    have comma : skipBlanks (laterLines level closing (next :: pieces) rest) = ',' :: behind := rfl
    have shorter : behind.length < ((newline (level + 1)).toList ++
        (piece ++ laterLines level closing (next :: pieces) rest)).length := by
      simp only [behind, laterLines, List.foldr_cons, List.length_append, List.length_cons]
      omega
    have further := inductionHypothesis reads
    have opening := reads.skip_newline (level + 1) (laterLines level closing pieces rest)
    obtain ⟨mark, more, rfl, -⟩ := reads.begins
    rw [Text.Listing.further]
    simp only [listing, first.skip_newline, read, comma]
    rw [if_neg (Ne.symm uncomma), if_pos ⟨trivial, shorter⟩, opening]
    simp only [List.cons_append, Bool.false_eq_true, false_and, if_false]
    rw [listing] at further
    rw [further]
    rfl

/-- The pieces between brackets are read by the reader of a list or a table once its opening bracket
has been read. -/
theorem items_lines (level : Nat) {opening last : String} {begin : Char}
    (opens : opening.toList = [begin]) (ends : last.toList = [closing]) {pieces : List String}
    {others : List α} (reads : List.Forall₂ (ReadsAs item) (pieces.map String.toList) others) :
    ∃ inside : List Char → List Char, ∀ rest,
      (bracketed level opening last pieces).toList ++ rest = begin :: inside rest ∧
      (listing closing).items item (inside rest) = some (others, rest) := by
  obtain ⟨unbegun, -, stays⟩ := closing_apart closes
  cases pieces with
  | nil =>
    cases reads
    refine ⟨fun rest => closing :: rest, fun rest => ⟨by simp [bracketed, opens, ends], ?_⟩⟩
    rw [Text.Listing.items]
    simp only [listing, stays, if_true]
  | cons piece pieces =>
    obtain ⟨found, others, first, later, rfl⟩ := List.forall₂_cons_left_iff.mp reads
    refine ⟨_, fun rest => ⟨to_list_bracketed level opens ends piece pieces rest, ?_⟩⟩
    have further := further_lines closes level first later rest
    have opening := first.skip_newline (level + 1)
      (laterLines level closing (pieces.map String.toList) rest)
    obtain ⟨mark, more, written, begins⟩ := first.begins
    have inside : mark ≠ closing := by
      rintro rfl
      rw [unbegun] at begins
      cases begins
    rw [written] at opening further ⊢
    rw [Text.Listing.items]
    simp only [listing]
    rw [opening]
    simp only [List.cons_append, inside, if_false]
    exact further

end Pieces

/-- The items of a list between brackets are read back, at every level of indentation. -/
theorem reads_as_list {depth : Nat} (level : Nat) {items : List String} {documents : List Document}
    (reads : List.Forall₂ (ReadsAs (value depth)) (items.map String.toList) documents) :
    ReadsAs (value (depth + 1)) (bracketed level "[" "]" items).toList (.list documents) := by
  have array (rest : List Char) : value (depth + 1) ('[' :: rest) =
      ((listing ']').items (value depth) rest).map fun found => (.list found.1, found.2) := rfl
  have opens : "[".toList = ['['] := rfl
  have ends : "]".toList = [']'] := rfl
  obtain ⟨inside, written⟩ := items_lines (by decide) level opens ends reads
  refine ⟨⟨_, inside [], by simpa using (written []).1, rfl⟩, fun rest => ?_⟩
  obtain ⟨layout, read⟩ := written rest
  rw [layout, array, read]
  exact fun _ => rfl

/-- The entries of a table between brackets are read back and come out sorted by name. -/
theorem reads_as_table {depth : Nat} (level : Nat) {pieces : List String}
    {entries : List (String × Document)}
    (reads : List.Forall₂ (ReadsAs (entry (value depth))) (pieces.map String.toList) entries) :
    ReadsAs (value (depth + 1)) (bracketed level "\x7b" "\x7d" pieces).toList
      (sortedTable entries) := by
  have table (rest : List Char) : value (depth + 1) ('\x7b' :: rest) =
      ((listing '\x7d').items (entry (value depth)) rest).map fun found =>
        (sortedTable found.1, found.2) := rfl
  have opens : "\x7b".toList = ['\x7b'] := rfl
  have ends : "\x7d".toList = ['\x7d'] := rfl
  obtain ⟨inside, written⟩ := items_lines (by decide) level opens ends reads
  refine ⟨⟨_, inside [], by simpa using (written []).1, rfl⟩, fun rest => ?_⟩
  obtain ⟨layout, read⟩ := written rest
  rw [layout, table, read]
  exact fun _ => rfl

/-- An entry is read back when its value is: the name is a text, and between the two stand a colon
and a blank. -/
theorem reads_as_entry {item : Reader Document} (name : String) {written : String}
    {document : Document} (reads : ReadsAs item written.toList document) :
    ReadsAs (entry item) (quotedText name ++ ": " ++ written).toList (name, document) := by
  have colon : ": ".toList = [':', ' '] := rfl
  have layout (rest : List Char) : (quotedText name ++ ": " ++ written).toList ++ rest =
      '"' :: (name.toList.flatMap escaped ++ '"' :: ':' :: ' ' :: (written.toList ++ rest)) := by
    simp [to_list_quoted_text, colon]
  refine ⟨⟨_, _, by simpa using layout [], rfl⟩, fun rest ends => ?_⟩
  have value := reads.reads rest ends
  obtain ⟨mark, more, opening, begins⟩ := reads.begins
  rw [opening, List.cons_append] at value
  have separator : skipBlanks (':' :: ' ' :: mark :: (more ++ rest)) =
      ':' :: ' ' :: mark :: (more ++ rest) := rfl
  have blank : skipBlanks (' ' :: mark :: (more ++ rest)) = mark :: (more ++ rest) :=
    skip_blanks_of_begins begins _
  rw [layout, opening, List.cons_append, entry]
  simp only [text_body_escaped, Option.bind_eq_bind, Option.bind_some, separator, blank, value,
    String.ofList_toList]
  rfl

mutual

/-- The document with the entries of every table in it sorted by name, which is what can be told of
a document from its text. -/
def sorted : Document → Document
  | .list items => .list (sortedItems items)
  | .table entries => sortedTable (sortedEntries entries)
  | other => other

/-- The items of a list, with their tables sorted. -/
def sortedItems : List Document → List Document
  | [] => []
  | item :: rest => sorted item :: sortedItems rest

/-- The entries of a table in their own order, with the tables in their values sorted. -/
def sortedEntries : List (String × Document) → List (String × Document)
  | [] => []
  | (name, value) :: rest => (name, sorted value) :: sortedEntries rest

end

mutual

/-- The document can be written and read back with at most so many lists and tables inside one
another: its integers have 64 bits, there are no other numbers and no dates, and the names of each
table are different. -/
def Faithful (depth : Nat) : Document → Prop
  | .null => True
  | .boolean _ => True
  | .integer value => -(signedBound : Int) ≤ value ∧ value < (UInt64.size : Int)
  | .real _ => False
  | .text _ => True
  | .moment => False
  | .list items => 0 < depth ∧ FaithfulItems (depth - 1) items
  | .table entries =>
    0 < depth ∧ (entries.map Prod.fst).Nodup ∧ FaithfulEntries (depth - 1) entries

/-- Each item of a list can be written and read back. -/
def FaithfulItems (depth : Nat) : List Document → Prop
  | [] => True
  | item :: rest => Faithful depth item ∧ FaithfulItems depth rest

/-- The value of each entry of a table can be written and read back. -/
def FaithfulEntries (depth : Nat) : List (String × Document) → Prop
  | [] => True
  | (_, value) :: rest => Faithful depth value ∧ FaithfulEntries depth rest

end

mutual

/-- What is written for a document is read as that document with sorted tables, at every level of
indentation. One case for each kind of document; lists and tables go through their pieces. -/
theorem reads_as_render {depth : Nat} (level : Nat) {document : Document}
    (faithful : Faithful depth document) :
    ReadsAs (value depth) (render level document).toList (sorted document) := by
  match document, faithful with
  | .null, _ => exact reads_as_null depth
  | .boolean truth, _ => exact reads_as_boolean truth depth
  | .integer number, faithful => exact reads_as_integer faithful.1 faithful.2 depth
  | .text text, _ => exact reads_as_text text depth
  | .list items, faithful =>
    obtain ⟨deep, faithful⟩ := faithful
    obtain ⟨depth, rfl⟩ := Nat.exists_eq_add_one.mpr deep
    exact reads_as_list level (reads_as_items (level + 1) faithful)
  | .table entries, faithful =>
    obtain ⟨deep, -, faithful⟩ := faithful
    obtain ⟨depth, rfl⟩ := Nat.exists_eq_add_one.mpr deep
    exact reads_as_table level (reads_as_entries (level + 1) faithful)

/-- The items of a list are read one by one, each as what it is. -/
theorem reads_as_items {depth : Nat} (level : Nat) {items : List Document}
    (faithful : FaithfulItems depth items) :
    List.Forall₂ (ReadsAs (value depth)) ((renderItems level items).map String.toList)
      (sortedItems items) := by
  match items, faithful with
  | [], _ => exact .nil
  | item :: rest, ⟨first, others⟩ =>
    exact .cons (reads_as_render level first) (reads_as_items level others)

/-- The entries of a table are read one by one, each with its name. -/
theorem reads_as_entries {depth : Nat} (level : Nat) {entries : List (String × Document)}
    (faithful : FaithfulEntries depth entries) :
    List.Forall₂ (ReadsAs (entry (value depth))) ((renderEntries level entries).map String.toList)
      (sortedEntries entries) := by
  match entries, faithful with
  | [], _ => exact .nil
  | (name, value) :: rest, ⟨first, others⟩ =>
    exact .cons (reads_as_entry name (reads_as_render level first)) (reads_as_entries level others)

end

/-- A whole document is read back from its text, as itself with sorted tables. This is the law that
ties the reader to the writer. -/
theorem parse_pretty {document : Document} (faithful : Faithful 127 document) :
    parse (pretty document) = some (sorted document) := by
  obtain ⟨⟨first, others, written, begins⟩, reads⟩ := reads_as_render 0 faithful
  have read := reads [] .nothing
  rw [List.append_nil] at read
  have unskipped : skipBlanks (pretty document).toList = (render 0 document).toList := by
    rw [pretty, written, skip_blanks_of_begins begins]
  rw [parse, unskipped, read]
  rfl

/-- Sorting the tables inside the entries of a table changes their values alone. -/
theorem sorted_entries_eq_map (entries : List (String × Document)) :
    sortedEntries entries = entries.map fun entry => (entry.1, sorted entry.2) := by
  induction entries with
  | nil => rfl
  | cons entry entries inductionHypothesis =>
    rw [sortedEntries, List.map_cons, inductionHypothesis]

/-- The entries of a sorted table are the entries there were, in another order. -/
theorem stands_once_in_sorted {entries : List (String × Document)} {name : String}
    {document : Document} (distinct : (entries.map Prod.fst).Nodup)
    (listed : (name, document) ∈ entries) :
    StandsOnce (Std.ExtTreeMap.ofList entries).toList name document := by
  have apart : entries.Pairwise fun one other => ¬ compare one.1 other.1 = .eq := by
    refine (List.pairwise_map.mp distinct).imp fun different same => ?_
    exact different (Std.LawfulEqCmp.eq_of_compare same)
  have kept : (Std.ExtTreeMap.ofList entries)[name]? = some document :=
    Std.ExtTreeMap.getElem?_ofList_of_mem Std.ReflCmp.compare_self apart listed
  refine .of_nodup ?_ (Std.ExtTreeMap.mem_toList_iff_getElem?_eq_some.mpr kept)
  rw [Std.ExtTreeMap.map_fst_toList_eq_keys]
  exact Std.ExtTreeMap.nodup_keys

mutual

/-- Nothing is lost or added when tables are sorted: every field still stands once, with the value
that it had. -/
theorem extended_sorted {depth : Nat} {document : Document} (faithful : Faithful depth document) :
    document.Extended (sorted document) := by
  match document, faithful with
  | .null, _ => exact .same _
  | .boolean _, _ => exact .same _
  | .integer _, _ => exact .same _
  | .text _, _ => exact .same _
  | .list items, faithful => exact .list (extended_sorted_items faithful.2)
  | .table entries, ⟨_, distinct, faithful⟩ =>
    refine .of_carries fun entry listed => ⟨sorted entry.2, ?_, ?_⟩
    · refine stands_once_in_sorted ?_ ?_
      · rw [sorted_entries_eq_map, List.map_map]
        exact distinct
      · rw [sorted_entries_eq_map]
        exact List.mem_map_of_mem listed
    · exact extended_sorted_entries faithful entry listed

/-- So it is with the items of a list, one by one. -/
theorem extended_sorted_items {depth : Nat} {items : List Document}
    (faithful : FaithfulItems depth items) :
    List.Forall₂ Document.Extended items (sortedItems items) := by
  match items, faithful with
  | [], _ => exact .nil
  | item :: rest, ⟨first, others⟩ =>
    exact .cons (extended_sorted first) (extended_sorted_items others)

/-- And with the values of a table, whose names stay the same. -/
theorem extended_sorted_entries {depth : Nat} {entries : List (String × Document)}
    (faithful : FaithfulEntries depth entries) :
    ∀ entry ∈ entries, entry.2.Extended (sorted entry.2) := by
  match entries, faithful with
  | [], _ => exact nofun
  | (name, value) :: rest, ⟨first, others⟩ =>
    exact List.forall_mem_cons.mpr ⟨extended_sorted first, extended_sorted_entries others⟩

end

end CustomerKeys.Json
