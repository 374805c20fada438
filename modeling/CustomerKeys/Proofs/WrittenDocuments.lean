import CustomerKeys.Proofs.WrittenValues
import CustomerKeys.Toml.Reader

/-!
# Written documents read back

A table whose entries have different bare names and flat values is read back from what is written
for it, entry by entry and in the same order. Each entry is a line of its own, so the reading goes
from line to line; the tree that is then built is the list of the entries, because no name comes
twice.
-/

namespace CustomerKeys.Toml

open CustomerKeys.Text (Reader spanWhile)

/-- A name that is written as it is: it has characters, and all of them may stand in a bare name. -/
structure Bare (name : String) : Prop where
  nonempty : name.toList ≠ []
  bare : ∀ c ∈ name.toList, isBare c = true

/-- A character of a bare name is none of those that have a meaning at the beginning of a line or
behind a name. -/
theorem ne_of_is_bare {c other : Char} (bare : isBare c = true) (unlike : isBare other = false) :
    c ≠ other := by
  rintro rfl
  rw [bare] at unlike
  cases unlike

/-- Nothing is skipped before a character of a bare name. -/
theorem begins_value_of_is_bare {c : Char} (bare : isBare c = true) : beginsValue c = true := by
  by_cases small : c.toNat < 128
  · have ascii : ∀ point < 128, isBare (Char.ofNat point) = true →
        beginsValue (Char.ofNat point) = true := by decide
    have begins := ascii c.toNat small
    rw [Char.ofNat_toNat] at begins
    exact begins bare
  · have visible : isVisible c = true := by
      simp only [isVisible, Bool.or_eq_true, Bool.and_eq_true, decide_eq_true_eq]
      omega
    have space : c ≠ ' ' := ne_of_is_bare bare (by decide)
    have tab : c ≠ '\t' := ne_of_is_bare bare (by decide)
    have comment : c ≠ '#' := ne_of_is_bare bare (by decide)
    have bracket : c ≠ ']' := ne_of_is_bare bare (by decide)
    simp [beginsValue, isSpace, visible, space, tab, comment, bracket]

/-- A bare name has a first character. -/
theorem Bare.begins {word : String} (bare : Bare word) :
    ∃ first others, word.toList = first :: others ∧ isBare first = true := by
  obtain ⟨first, others, written⟩ := List.exists_cons_of_ne_nil bare.nonempty
  exact ⟨first, others, written, bare.bare first (written ▸ List.mem_cons_self)⟩

/-- A bare name is read up to the space behind it. -/
theorem name_of_bare {word : String} (bare : Bare word) (rest : List Char) :
    name (word.toList ++ ' ' :: rest) = some (word, ' ' :: rest) := by
  have span : spanWhile isBare (word.toList ++ ' ' :: rest) = (word.toList, ' ' :: rest) := by
    have stops : isBare ' ' = false := by decide
    rw [spanWhile, List.takeWhile_append_of_pos bare.bare, List.dropWhile_append_of_pos bare.bare]
    simp [stops]
  have read : bareName (word.toList ++ ' ' :: rest) = some (word, ' ' :: rest) := by
    have nonempty : word.toList.isEmpty = false := by simpa using bare.nonempty
    simp only [bareName, span, nonempty, Bool.false_eq_true, if_false, String.ofList_toList]
  obtain ⟨first, others, written, solid⟩ := bare.begins
  rw [written, List.cons_append] at read ⊢
  rw [name]
  · exact read
  · exact fun _ same => ne_of_is_bare solid (by decide) (List.cons.inj same).1
  · exact fun _ same => ne_of_is_bare solid (by decide) (List.cons.inj same).1

/-- A bare name alone is a path, read up to the equals sign behind it. -/
theorem path_of_bare {word : String} (bare : Bare word) (rest : List Char) :
    path (word.toList ++ ' ' :: '=' :: rest) = some (⟨[], word⟩, '=' :: rest) := by
  have read := name_of_bare bare ('=' :: rest)
  have solid : skipSpaces (word.toList ++ ' ' :: '=' :: rest) =
      word.toList ++ ' ' :: '=' :: rest := by
    obtain ⟨first, others, written, solid⟩ := bare.begins
    rw [written]
    exact skip_spaces_of_begins (begins_value_of_is_bare solid) _
  have spaces : skipSpaces (' ' :: '=' :: rest) = '=' :: rest := rfl
  have whole : anyPath (word.toList ++ ' ' :: '=' :: rest) = some (⟨[], word⟩, '=' :: rest) := by
    rw [anyPath]
    simp only [solid, read, spaces]
    rfl
  rw [path, whole]
  rfl

/-- The line of an entry, as the reader sees it: the name, an equals sign between blanks, the value
and the end of the line. -/
def entryLine (word : String) (written : List Char) (rest : List Char) : List Char :=
  word.toList ++ ' ' :: '=' :: ' ' :: (written ++ '\n' :: rest)

/-- The line of an entry is read as that entry, up to the end of the line. -/
theorem statement_entry_line {word : String} (bare : Bare word) {written : List Char}
    {document : Document} (reads : ReadsAs (value depthLimit) written document)
    (rest : List Char) :
    statement (entryLine word written rest) =
      some (.entry ⟨[], word⟩ document, '\n' :: rest) := by
  have named := path_of_bare bare (' ' :: (written ++ '\n' :: rest))
  have valued := reads.reads ('\n' :: rest) (.newline rest)
  have spaces : skipSpaces (' ' :: (written ++ '\n' :: rest)) = written ++ '\n' :: rest := by
    obtain ⟨first, others, rfl, begins⟩ := reads.begins
    exact skip_spaces_of_begins begins _
  have found : entry (value depthLimit) (entryLine word written rest) =
      some ((⟨[], word⟩, document), '\n' :: rest) := by
    simp [entry, entryLine, named, mark, spaces, valued]
  have asEntry : statement (entryLine word written rest) =
      (entry (value depthLimit) (entryLine word written rest)).map
        fun found => (.entry found.1.1 found.1.2, found.2) := by
    obtain ⟨first, others, characters, solid⟩ := bare.begins
    rw [entryLine, characters, List.cons_append, statement]
    · exact fun _ same => ne_of_is_bare solid (by decide) (List.cons.inj same).1
    · exact fun _ same => ne_of_is_bare solid (by decide) (List.cons.inj same).1
  rw [asEntry, found]
  rfl

/-- The lines of entries, one below the other and nothing between them. -/
def entryLines (lines : List (String × List Char)) : List Char :=
  lines.foldr (fun (word, written) rest => entryLine word written rest) []

/-- The lines of entries are read one after the other, as the statements of the document. -/
theorem statements_entry_lines {lines : List (String × List Char)}
    {entries : List (String × Document)} (bare : ∀ line ∈ lines, Bare line.1)
    (reads : List.Forall₂ (fun (line : String × List Char) (entry : String × Document) =>
      line.1 = entry.1 ∧ ReadsAs (value depthLimit) line.2 entry.2) lines entries) :
    statements (entryLines lines) =
      some (entries.map fun (word, document) => .entry ⟨[], word⟩ document) := by
  induction reads with
  | nil =>
    rw [entryLines, List.foldr_nil, statements, skipFiller]
    rfl
  | @cons line entry lines entries same others inductionHypothesis =>
    obtain ⟨word, written⟩ := line
    obtain ⟨_, document⟩ := entry
    obtain ⟨rfl, reads⟩ := same
    obtain ⟨wordBare, bare⟩ := List.forall_mem_cons.mp bare
    have first := statement_entry_line wordBare reads (entryLines lines)
    have unskipped : skipFiller (entryLine word written (entryLines lines)) =
        entryLine word written (entryLines lines) := by
      obtain ⟨initial, more, characters, solid⟩ := wordBare.begins
      rw [entryLine, characters]
      exact skip_filler_of_begins (begins_value_of_is_bare solid) _
    have ended : lineEnd ('\n' :: entryLines lines) = some (entryLines lines) := rfl
    have shorter : (entryLines lines).length <
        (entryLine word written (entryLines lines)).length := by
      simp only [entryLine, List.length_append, List.length_cons]
      omega
    obtain ⟨initial, more, starts⟩ : ∃ initial more,
        entryLine word written (entryLines lines) = initial :: more := by
      obtain ⟨initial, more, characters, _⟩ := wordBare.begins
      rw [entryLine, characters]
      exact ⟨initial, _, rfl⟩
    change statements (entryLine word written (entryLines lines)) = _
    rw [starts] at first unskipped shorter ⊢
    rw [statements, unskipped]
    simp only [first, ended, shorter, if_true, inductionHypothesis bare]
    rfl

/-- An entry under a new name is put behind the others. -/
theorem Progress.add_entry {placed : Entries} {word : String}
    (new : word ∉ placed.map Prod.fst) (document : Document) :
    Progress.add ⟨placed, []⟩ (.entry ⟨[], word⟩ document) =
      some ⟨placed ++ [(word, .value document)], []⟩ := by
  have absent : placed.lookup word = none := by
    refine List.lookup_eq_none_iff.mpr fun entry listed => ?_
    simpa using fun same => new (List.mem_map.mpr ⟨entry, listed, Eq.symm same⟩)
  have added : placed.place ⟨[], word⟩ document = some (placed ++ [(word, .value document)]) := by
    simp [Entries.place, Entries.changeAt, Entries.add, absent]
  rw [Progress.add, Entries.underHeader, Entries.changeAt, added]
  rfl

/-- Entries under different names that are all new stand in the end behind the others, in order. -/
theorem fold_add {placed : Entries} {entries : List (String × Document)}
    (distinct : (placed.map Prod.fst ++ entries.map Prod.fst).Nodup) :
    (entries.map fun (word, document) => Statement.entry ⟨[], word⟩ document).foldlM
        Progress.add ⟨placed, []⟩ =
      some ⟨placed ++ entries.map fun (word, document) => (word, .value document), []⟩ := by
  induction entries generalizing placed with
  | nil => simp
  | cons entry entries inductionHypothesis =>
    obtain ⟨word, document⟩ := entry
    have new : word ∉ placed.map Prod.fst := fun listed =>
      (List.nodup_append.mp distinct).2.2 word listed word List.mem_cons_self rfl
    have others : ((placed ++ [(word, Node.value document)]).map Prod.fst ++
        entries.map Prod.fst).Nodup := by simpa using distinct
    rw [List.map_cons, List.foldlM_cons, Progress.add_entry new, Option.bind_eq_bind,
      Option.bind_some, inductionHypothesis others]
    simp

/-- Values are finished documents already, so finishing a tree without tables changes nothing. -/
theorem entry_documents_values (entries : List (String × Document)) :
    entryDocuments (entries.map fun (word, document) => (word, .value document)) = entries := by
  induction entries with
  | nil => rfl
  | cons entry entries inductionHypothesis =>
    rw [List.map_cons, entryDocuments, inductionHypothesis, Node.document]

/-- Entries under different names are the entries of the document that they describe. -/
theorem build_entries {entries : List (String × Document)}
    (distinct : (entries.map Prod.fst).Nodup) :
    build (entries.map fun (word, document) => .entry ⟨[], word⟩ document) = some entries := by
  rw [build, Progress.start, fold_add (by simpa using distinct), Option.map_some, List.nil_append,
    entry_documents_values]

/-- What is written for entries are their lines. -/
theorem to_list_join_written_entry {entries : List (String × Document)} {texts : List String}
    (written : List.Forall₂ (fun entry text => writtenEntry entry = .ok text) entries texts) :
    ∃ lines : List (String × List Char), (String.join texts).toList = entryLines lines ∧
      List.Forall₂ (fun entry line => line.1 = entry.1 ∧
        ∃ shown, writtenValue entry.2 = .ok shown ∧ line.2 = shown.toList) entries lines := by
  induction written with
  | nil => exact ⟨[], by simp [entryLines], .nil⟩
  | @cons entry text entries texts first others inductionHypothesis =>
    obtain ⟨lines, same, shown⟩ := inductionHypothesis
    obtain ⟨word, document⟩ := entry
    cases value : writtenValue document with
    | error reason =>
      rw [writtenEntry, value] at first
      cases first
    | ok written =>
      rw [writtenEntry, value] at first
      obtain rfl := Except.ok.inj first
      refine ⟨(word, written.toList) :: lines, ?_, .cons ⟨rfl, written, value, rfl⟩ shown⟩
      rw [entryLines, List.foldr_cons, ← entryLines, ← same]
      have equals : " = ".toList = [' ', '=', ' '] := rfl
      have newline : "\n".toList = ['\n'] := rfl
      simp [entryLine, String.toList_append, equals, newline]

/-- Entry lines do not begin with a mark of the encoding, so nothing is taken off their front. -/
theorem without_mark_entry_lines {lines : List (String × List Char)}
    (bare : ∀ line ∈ lines, Bare line.1) :
    withoutMark (entryLines lines) = entryLines lines := by
  cases lines with
  | nil => rfl
  | cons line lines =>
    obtain ⟨first, others, characters, solid⟩ := (bare line List.mem_cons_self).begins
    obtain ⟨word, written⟩ := line
    change withoutMark (entryLine word written (entryLines lines)) =
      entryLine word written (entryLines lines)
    rw [entryLine, characters, List.cons_append, withoutMark]
    exact fun _ same => ne_of_is_bare solid (by decide) (List.cons.inj same).1

/-- A table with different bare names and flat values is read back from its text. -/
theorem parse_write {entries : List (String × Document)} {text : String}
    (bare : ∀ entry ∈ entries, Bare entry.1) (distinct : (entries.map Prod.fst).Nodup)
    (plain : ∀ entry ∈ entries, entry.2.Flat) (written : write (.table entries) = .ok text) :
    parse text = some (.table entries) := by
  cases each : entries.mapM writtenEntry with
  | error reason =>
    rw [write, each] at written
    cases written
  | ok texts =>
    rw [write, each] at written
    obtain rfl := Except.ok.inj written
    obtain ⟨lines, same, shown⟩ := to_list_join_written_entry (forall₂_of_traverse each)
    have reads : List.Forall₂ (fun (line : String × List Char) (entry : String × Document) =>
        line.1 = entry.1 ∧ ReadsAs (value depthLimit) line.2 entry.2) lines entries := by
      have pairs := (List.forall₂_and_left _ _).mpr ⟨plain, shown⟩
      refine List.Forall₂.flip (pairs.imp fun entry line both => ?_)
      obtain ⟨flat, named, shown, value, characters⟩ := both
      exact ⟨named, characters ▸ reads_as_flat flat value _⟩
    have names : lines.map Prod.fst = entries.map Prod.fst := by
      rw [← List.forall₂_eq_eq_eq]
      refine List.forall₂_map_left_iff.mpr (List.forall₂_map_right_iff.mpr ?_)
      exact reads.imp fun _ _ both => both.1
    have lineBare : ∀ line ∈ lines, Bare line.1 := by
      intro line listed
      have named : line.1 ∈ entries.map Prod.fst := names ▸ List.mem_map_of_mem listed
      obtain ⟨entry, listed, same⟩ := List.mem_map.mp named
      exact same ▸ bare entry listed
    rw [parse, same, without_mark_entry_lines lineBare, statements_entry_lines lineBare reads,
      Option.bind_some, build_entries distinct]
    rfl

end CustomerKeys.Toml
