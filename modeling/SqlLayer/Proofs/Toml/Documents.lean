import SqlLayer.Proofs.Toml.Values

/-!
# Documents read back

A document of two levels: texts and integers at the top, and objects of texts and integers below it.

* `Toml.linesOf?_definition`, `Toml.linesOf?_header` — what **one line** adds to a document;
* `Toml.ReadsLines` — the lines of a text are a document, **whatever the fuel**;
* `Toml.defineAll_fresh`, `Toml.foldlM_openSection` — definitions and sections with **new keys** go
  to the end of their table;
* `Toml.exists_read?_write` — **what is read is what was written, reordered**.
-/

namespace SqlLayer.Toml

/-! ### One line -/

theorem skipBlanks_quoted (key : String) (rest : List Char) :
    skipBlanks ((quoted key).toList ++ rest) = (quoted key).toList ++ rest := by
  rw [toList_quoted, List.cons_append, skipBlanks, List.dropWhile_cons_of_neg (by decide)]

/-- A quoted key with no point behind it is a whole dotted key. -/
theorem dottedKey?_quoted (key : String) {rest : List Char}
    (hrest : ∀ more, skipBlanks rest ≠ '.' :: more) :
    dottedKey? ((quoted key).toList ++ rest) = some (⟨[], key⟩, skipBlanks rest) := by
  rw [dottedKey?, greatestPathLength, path?, skipBlanks_quoted, simpleKey?_quoted]
  simp only [Option.bind_eq_bind, Option.bind_some]

theorem endOfLine?_lineFeed (rest : List Char) : endOfLine? ('\n' :: rest) = some rest := rfl

/-- The definition of a key of its own. -/
def definition (m : String × Json) : Definition := ⟨⟨[], m.1⟩, m.2⟩

/-- The characters of a definition. -/
def lineChars (key text : String) : List Char :=
  (quoted key).toList ++ ' ' :: '=' :: ' ' :: text.toList

/-- A definition is read up to the end of its line. -/
theorem definition?_lineChars {m : String × Json} {text : String} (h : Written m.2 text)
    (rest : List Char) :
    definition? (lineChars m.1 text ++ '\n' :: rest) = some (definition m, '\n' :: rest) := by
  have hkey : dottedKey? (lineChars m.1 text ++ '\n' :: rest)
      = some (⟨[], m.1⟩, '=' :: ' ' :: (text.toList ++ '\n' :: rest)) := by
    rw [lineChars, List.append_assoc]
    exact dottedKey?_quoted m.1 fun more hmore => absurd (List.cons.inj hmore).1 (by decide)
  have hequals : ∀ s, after? '=' (skipBlanks ('=' :: s)) = some s := fun _ => rfl
  have hvalue : value? (skipBlanks (' ' :: (text.toList ++ '\n' :: rest)))
      = some (m.2, '\n' :: rest) := by
    show value? (skipBlanks (text.toList ++ '\n' :: rest)) = _
    rw [h.start, h.read]
  simp only [definition?, hkey, hequals, hvalue, Option.bind_eq_bind, Option.bind_some,
    Option.pure_def, definition]

/-- **A definition** comes before those of the next lines. -/
theorem linesOf?_definition {m : String × Json} {text : String} (h : Written m.2 text) (fuel : Nat)
    (rest : List Char) :
    linesOf? (fuel + 1) (lineChars m.1 text ++ '\n' :: rest)
      = (linesOf? fuel rest).map fun doc =>
          ⟨definition m :: doc.definitions, doc.sections⟩ := by
  have hread := definition?_lineChars h rest
  have hblank : skipBlanks (lineChars m.1 text ++ '\n' :: rest)
      = lineChars m.1 text ++ '\n' :: rest := by
    rw [lineChars, List.append_assoc, skipBlanks_quoted]
  have hquote : ∃ more, lineChars m.1 text ++ '\n' :: rest = '\x22' :: more := by
    rw [lineChars, toList_quoted]
    exact ⟨_, rfl⟩
  obtain ⟨more, hmore⟩ := hquote
  rw [hmore] at hread hblank ⊢
  rw [linesOf?, hblank]
  split
  next heq => exact nomatch heq
  next heq => exact absurd (List.cons.inj heq).1 (by decide)
  next heq =>
    obtain ⟨rfl, rfl⟩ := List.cons.inj heq
    rw [if_neg (by decide), hread]
    simp only [Option.bind_eq_bind, Option.bind_some, endOfLine?_lineFeed]
    cases linesOf? fuel rest <;> rfl

/-- The characters of a header. -/
def headerChars (key : String) : List Char := '[' :: ((quoted key).toList ++ [']'])

/-- **A header** takes the definitions of the next lines. -/
theorem linesOf?_header (key : String) (fuel : Nat) (rest : List Char) :
    linesOf? (fuel + 1) (headerChars key ++ '\n' :: rest)
      = (linesOf? fuel rest).map fun doc =>
          ⟨[], ⟨⟨[], key⟩, false, doc.definitions⟩ :: doc.sections⟩ := by
  have hkey : dottedKey? ((quoted key).toList ++ ']' :: '\n' :: rest)
      = some (⟨[], key⟩, ']' :: '\n' :: rest) :=
    dottedKey?_quoted key fun more hmore => absurd (List.cons.inj hmore).1 (by decide)
  have hheader : header? ((quoted key).toList ++ ']' :: '\n' :: rest)
      = some (⟨[], key⟩, false, '\n' :: rest) := by
    have hopen : ∀ more, (quoted key).toList ++ ']' :: '\n' :: rest ≠ '[' :: more := by
      intro more hmore
      rw [toList_quoted] at hmore
      exact absurd (List.cons.inj hmore).1 (by decide)
    unfold header?
    split
    next heq => exact absurd heq (hopen _)
    next =>
      rw [hkey]
      rfl
  rw [headerChars, List.cons_append, List.append_assoc, List.singleton_append, linesOf?, skipBlanks,
    List.dropWhile_cons_of_neg (by decide)]
  simp only [hheader, Option.bind_eq_bind, Option.bind_some, endOfLine?_lineFeed]
  cases linesOf? fuel rest <;> rfl

/-! ### All lines -/

/-- The lines of a text are those of a document; `fuel` that exceeds their length is enough. -/
def ReadsLines (s : List Char) (doc : Document) : Prop :=
  ∀ fuel, s.length < fuel → linesOf? fuel s = some doc

theorem readsLines_nil : ReadsLines [] ⟨[], []⟩ := by
  intro fuel hfuel
  cases fuel with
  | zero => exact absurd hfuel (Nat.not_lt_zero _)
  | succ fuel => rfl

/-- One more line in front, from what it adds. -/
theorem ReadsLines.line {line rest : List Char} {doc : Document} {add : Document → Document}
    (hrest : ReadsLines rest doc)
    (hline : ∀ fuel, linesOf? (fuel + 1) (line ++ '\n' :: rest) = (linesOf? fuel rest).map add) :
    ReadsLines (line ++ '\n' :: rest) (add doc) := by
  intro fuel hfuel
  rw [List.length_append, List.length_cons] at hfuel
  cases fuel with
  | zero => exact absurd hfuel (Nat.not_lt_zero _)
  | succ fuel => rw [hline, hrest fuel (by omega), Option.map_some]

theorem toList_linesText_cons (line : String) (lines : List String) :
    (linesText (line :: lines)).toList = line.toList ++ '\n' :: (linesText lines).toList := by
  simp [linesText]

/-- **Definitions are read one after the other**, by induction on their list. -/
theorem exists_memberTexts? {members : List (String × Json)}
    (h : ∀ m ∈ members, ∃ text, Written m.2 text) :
    ∃ lines, memberTexts? members = some lines ∧ ∀ rest doc, ReadsLines rest doc →
      ReadsLines ((linesText lines).toList ++ rest)
        ⟨members.map definition ++ doc.definitions, doc.sections⟩ := by
  induction members with
  | nil => exact ⟨[], rfl, fun rest doc hrest => hrest⟩
  | cons m members ih =>
    obtain ⟨text, hwritten⟩ := h m List.mem_cons_self
    obtain ⟨lines, hlines, hreads⟩ := ih fun other hother => h other (List.mem_cons_of_mem _ hother)
    refine ⟨(quoted m.1 ++ " = " ++ text) :: lines, ?_, fun rest doc hrest => ?_⟩
    · rw [memberTexts?, hwritten.valueText, hlines]
      rfl
    · have hchars : (quoted m.1 ++ " = " ++ text).toList = lineChars m.1 text := by
        simp [lineChars]
      rw [toList_linesText_cons, hchars, List.append_assoc, List.cons_append]
      exact (hreads rest doc hrest).line fun fuel => linesOf?_definition hwritten fuel _

/-- The section of an object. -/
def sectionOf (s : String × List (String × Json)) : Section :=
  ⟨⟨[], s.1⟩, false, s.2.map definition⟩

/-- **Sections are read one after the other.** -/
theorem exists_sectionTexts {sections : List (String × List (String × Json))}
    (h : ∀ s ∈ sections, ∀ m ∈ s.2, ∃ text, Written m.2 text) :
    ∃ texts, sections.mapM (fun s => sectionText? s.1 s.2) = some texts ∧
      ReadsLines (String.join texts).toList ⟨[], sections.map sectionOf⟩ := by
  induction sections with
  | nil => exact ⟨[], rfl, readsLines_nil⟩
  | cons s sections ih =>
    obtain ⟨lines, hlines, hreads⟩ := exists_memberTexts? (h s List.mem_cons_self)
    obtain ⟨texts, htexts, hrest⟩ := ih fun other hother => h other (List.mem_cons_of_mem _ hother)
    refine ⟨linesText (("[" ++ quoted s.1 ++ "]") :: lines) :: texts, ?_, ?_⟩
    · rw [List.mapM_cons, sectionText?, hlines, htexts]
      rfl
    · have hchars : (String.join (linesText (("[" ++ quoted s.1 ++ "]") :: lines) :: texts)).toList
          = headerChars s.1 ++
            '\n' :: ((linesText lines).toList ++ (String.join texts).toList) := by
        simp [toList_linesText_cons, headerChars]
      have hdefinitions := hreads _ _ hrest
      rw [List.append_nil] at hdefinitions
      rw [hchars]
      exact hdefinitions.line fun fuel => linesOf?_header s.1 fuel _

/-- The text of an object of two levels, and the document that its lines are. -/
theorem exists_document? {members : List (String × Json)}
    (hplain : ∀ m ∈ plainMembers members, ∃ text, Written m.2 text)
    (hsections : ∀ s ∈ sectionsOf members, ∀ m ∈ s.2, ∃ text, Written m.2 text) :
    ∃ text, write? (.object members) = some text ∧ document? text = some
      ⟨(plainMembers members).map definition, (sectionsOf members).map sectionOf⟩ := by
  obtain ⟨lines, hlines, hreads⟩ := exists_memberTexts? hplain
  obtain ⟨texts, htexts, hrest⟩ := exists_sectionTexts hsections
  refine ⟨linesText lines ++ String.join texts, ?_, ?_⟩
  · rw [write?, hlines, htexts]
    rfl
  · have hall := hreads _ _ hrest
    rw [List.append_nil, ← String.toList_append] at hall
    -- a byte order mark would be no line
    have hmark : ∀ more, (linesText lines ++ String.join texts).toList ≠ '\uFEFF' :: more := by
      intro more hmore
      have hnone : linesOf? (more.length + 2) ('\uFEFF' :: more) = none := rfl
      have hread := hall (more.length + 2) (by rw [hmore]; exact Nat.lt_succ_self _)
      rw [hmore, hnone] at hread
      exact nomatch hread
    unfold document?
    split
    next heq => exact absurd heq (hmark _)
    next => exact hall _ (Nat.lt_succ_self _)

/-! ### The tree of a document -/

/-- The members that definitions make. -/
def leaves (members : List (String × Json)) : Members := members.map fun m => (m.1, .leaf m.2)

/-- Definitions of new keys go to the end. -/
theorem defineAll_fresh {members : List (String × Json)} {table : Members}
    (hnodup : (table.map Prod.fst ++ members.map Prod.fst).Nodup) :
    defineAll (members.map definition) table = some (table ++ leaves members) := by
  induction members generalizing table with
  | nil => exact congrArg some (List.append_nil table).symm
  | cons m members ih =>
    have hnew : m.1 ∉ table.map Prod.fst := fun hmem =>
      (List.nodup_append.1 hnodup).2.2 m.1 hmem m.1 List.mem_cons_self rfl
    have hfirst : defineIn table (definition m) = some (table ++ [(m.1, .leaf m.2)]) := by
      have hnone := Entries.find?_of_not_mem hnew
      show (if (Entries.find? m.1 table).isSome then none
        else some (Entries.put m.1 (.leaf m.2) table)) = _
      rw [hnone, Entries.put_of_not_mem hnew]
      rfl
    rw [defineAll, List.map_cons, List.foldlM_cons, hfirst]
    show defineAll (members.map definition) _ = _
    rw [ih (by simpa using hnodup), List.append_assoc]
    rfl

/-- The members that sections make. -/
def tablesOf (sections : List (String × List (String × Json))) : Members :=
  sections.map fun s => (s.1, .table .header (leaves s.2))

/-- Sections of new keys go to the end. -/
theorem foldlM_openSection {sections : List (String × List (String × Json))} {root : Members}
    (hnodup : (root.map Prod.fst ++ sections.map Prod.fst).Nodup)
    (hinner : ∀ s ∈ sections, (s.2.map Prod.fst).Nodup) :
    (sections.map sectionOf).foldlM openSection root = some (root ++ tablesOf sections) := by
  induction sections generalizing root with
  | nil => exact congrArg some (List.append_nil root).symm
  | cons s sections ih =>
    have hnew : s.1 ∉ root.map Prod.fst := fun hmem =>
      (List.nodup_append.1 hnodup).2.2 s.1 hmem s.1 List.mem_cons_self rfl
    have hfirst : openSection root (sectionOf s)
        = some (root ++ [(s.1, .table .header (leaves s.2))]) := by
      have hnone := Entries.find?_of_not_mem hnew
      have htable := @defineAll_fresh s.2 [] (hinner s List.mem_cons_self)
      rw [List.nil_append] at htable
      simp only [openSection, sectionOf, editAt, hnone, htable, Entries.put_of_not_mem hnew,
        Option.map_eq_map, Option.map_some, Option.bind_eq_bind, Option.bind_some, Option.pure_def]
    rw [List.map_cons, List.foldlM_cons, hfirst]
    show (sections.map sectionOf).foldlM openSection _ = _
    rw [ih (by simpa using hnodup) fun other hother => hinner other (List.mem_cons_of_mem _ hother),
      List.append_assoc]
    rfl

theorem membersTree_append (a b : Members) :
    membersTree (a ++ b) = membersTree a ++ membersTree b := by
  induction a with
  | nil => rfl
  | cons m a ih => rw [List.cons_append, membersTree, membersTree, ih, List.cons_append]

theorem membersTree_leaves (members : List (String × Json)) :
    membersTree (leaves members) = members := by
  induction members with
  | nil => rfl
  | cons m members ih =>
    rw [leaves, List.map_cons, membersTree, ← leaves, ih, Node.tree]

theorem membersTree_tablesOf (sections : List (String × List (String × Json))) :
    membersTree (tablesOf sections) = sections.map fun s => (s.1, Json.ofMembers s.2) := by
  induction sections with
  | nil => rfl
  | cons s sections ih =>
    rw [tablesOf, List.map_cons, membersTree, ← tablesOf, ih, Node.tree, membersTree_leaves,
      List.map_cons]

/-- The tree of a document with distinct keys in each of its tables. -/
theorem tree?_document {plain : List (String × Json)}
    {sections : List (String × List (String × Json))}
    (hnodup : (plain.map Prod.fst ++ sections.map Prod.fst).Nodup)
    (hinner : ∀ s ∈ sections, (s.2.map Prod.fst).Nodup) :
    (⟨plain.map definition, sections.map sectionOf⟩ : Document).tree? = some (Json.ofMembers
      (plain ++ sections.map fun s => (s.1, Json.ofMembers s.2))) := by
  have hplain := @defineAll_fresh plain [] (List.nodup_append.1 hnodup).1
  have hnames : (leaves plain).map Prod.fst = plain.map Prod.fst := by
    rw [leaves, List.map_map]
    rfl
  have hsections := @foldlM_openSection sections (leaves plain) (hnames ▸ hnodup) hinner
  rw [List.nil_append] at hplain
  simp only [Document.tree?, hplain, hsections, Option.bind_eq_bind, Option.bind_some,
    Option.pure_def, membersTree_append, membersTree_leaves, membersTree_tablesOf]

/-! ### Two levels -/

/-- The lines and the sections of an object hold its members. -/
theorem perm_lines_sections (members : List (String × Json)) :
    members.Perm (plainMembers members ++
      (sectionsOf members).map fun s => (s.1, Json.object s.2)) := by
  induction members with
  | nil => exact .refl _
  | cons m members ih =>
    obtain ⟨key, value⟩ := m
    cases value with
    | object inner => exact (ih.cons _).trans List.perm_middle.symm
    | _ => exact ih.cons _

/-- A leaf or an object of leaves. -/
def IsShallow (tree : Json) : Prop :=
  tree.isLeaf = true ∨ ∃ inner, tree = .object inner ∧ ∀ i ∈ inner, i.2.isLeaf = true

section

variable {members : List (String × Json)}

theorem object_mem_of_mem_sectionsOf {s : String × List (String × Json)}
    (hs : s ∈ sectionsOf members) : (s.1, Json.object s.2) ∈ members :=
  (perm_lines_sections members).mem_iff.2 (List.mem_append_right _ (List.mem_map_of_mem hs))

/-- No key is both that of a line and that of a section, and none comes twice. -/
theorem nodup_lines_sections (hnodup : (members.map Prod.fst).Nodup) :
    ((plainMembers members).map Prod.fst ++ (sectionsOf members).map Prod.fst).Nodup := by
  have hall := ((perm_lines_sections members).map Prod.fst).nodup_iff.1 hnodup
  rwa [List.map_append, List.map_map] at hall

/-- What stands on a line of its own is a leaf. -/
theorem written_of_mem_plainMembers (hplain : ∀ m ∈ members, Json.Plain m.2)
    (hshallow : ∀ m ∈ members, IsShallow m.2) :
    ∀ m ∈ plainMembers members, ∃ text, Written m.2 text := by
  intro m hm
  obtain ⟨hmem, hline⟩ := List.mem_filter.1 hm
  obtain hleaf | ⟨inner, hobject, -⟩ := hshallow m hmem
  · exact exists_written (hplain m hmem) hleaf
  · rw [hobject] at hline
    exact nomatch hline

/-- The lines of a section have distinct keys, and leaves for values. -/
theorem written_of_mem_sectionsOf (hplain : ∀ m ∈ members, Json.Plain m.2)
    (hshallow : ∀ m ∈ members, IsShallow m.2) :
    ∀ s ∈ sectionsOf members, (s.2.map Prod.fst).Nodup ∧
      ∀ m ∈ s.2, ∃ text, Written m.2 text := by
  intro s hs
  have hmem := object_mem_of_mem_sectionsOf hs
  obtain ⟨⟩ | ⟨⟩ | ⟨hkeys, hinner⟩ := hplain _ hmem
  obtain hleaf | ⟨inner, heq, hleaves⟩ := hshallow _ hmem
  · exact nomatch hleaf
  · obtain rfl := Json.object.inj heq
    exact ⟨hkeys, fun m hm => exists_written (hinner m hm) (hleaves m hm)⟩

/-- What reading makes of the members: lines first, and the keys of each section sorted. -/
theorem reordered_lines_sections (hnodup : (members.map Prod.fst).Nodup)
    (hinner : ∀ s ∈ sectionsOf members, (s.2.map Prod.fst).Nodup) :
    Json.Reordered (.object members) (Json.ofMembers
      (plainMembers members ++ (sectionsOf members).map fun s => (s.1, Json.ofMembers s.2))) := by
  have hperm := perm_lines_sections members
  have hsame : List.Forall₂ Json.ReorderedMember
      (plainMembers members ++ (sectionsOf members).map fun s => (s.1, Json.object s.2))
      (plainMembers members ++ (sectionsOf members).map fun s => (s.1, Json.ofMembers s.2)) := by
    refine List.rel_append (List.forall₂_same.2 fun m _ => ⟨rfl, .refl _⟩) ?_
    rw [List.forall₂_map_left_iff, List.forall₂_map_right_iff]
    exact List.forall₂_same.2 fun s hs =>
      ⟨rfl, .members (Json.perm_sortMembers (hinner s hs)).symm⟩
  exact .trans (.members hperm)
    (Json.reordered_ofMembers hsame ((hperm.map Prod.fst).nodup_iff.1 hnodup))

/-- **An object of two levels is read back from its document**, with the members in another
order. -/
theorem exists_read?_write (hplain : Json.Plain (.object members))
    (hshallow : ∀ m ∈ members, IsShallow m.2) :
    ∃ back, (write? (.object members)).bind read? = some back ∧
      Json.Reordered (.object members) back := by
  obtain ⟨⟩ | ⟨⟩ | ⟨hnodup, hmembers⟩ := hplain
  have hlines := written_of_mem_plainMembers hmembers hshallow
  have hsections := written_of_mem_sectionsOf hmembers hshallow
  obtain ⟨text, hwrite, hdocument⟩ := exists_document? hlines fun s hs => (hsections s hs).2
  have htree := tree?_document (nodup_lines_sections hnodup) fun s hs => (hsections s hs).1
  refine ⟨_, ?_, reordered_lines_sections hnodup fun s hs => (hsections s hs).1⟩
  rw [hwrite, Option.bind_some, read?, hdocument, Option.bind_some, htree]

end

end SqlLayer.Toml
