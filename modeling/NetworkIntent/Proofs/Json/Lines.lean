import NetworkIntent.Json.Printer

/-!
# Lines of documents

A document that is indented stands on lines: each bracket that is not closed at once, each item and
each entry has one of its own. Within a container all lines are moved to the right by the width of
the layout. The lines of an item are those of the item alone, the first line of an entry starts with
the key, and a comma at the end of its last line separates each part from the next.

## Main definitions

* `Json.lines`: the lines of a document, told from those of its parts.

## Main results

* `Json.lineBreak_write`: what is written at a level are the lines, each after a break to the level.
* `Json.write_eq_lines`: what is written are the lines, each with a line break at its end.
-/

set_option autoImplicit false

namespace NetworkIntent.Json

/-! ## Lines -/

/-- Lines with a mark at the end of the last one. -/
def markLast (mark : Char) : List (List Char) → List (List Char)
  | [] => []
  | [line] => [line ++ [mark]]
  | line :: rest => line :: markLast mark rest

/-- Lines with some characters at the start of the first one. -/
def startFirst (start : List Char) : List (List Char) → List (List Char)
  | [] => []
  | line :: rest => (start ++ line) :: rest

/-- The lines of several parts, separated by commas. -/
def separated : List (List (List Char)) → List (List Char)
  | [] => []
  | [part] => part
  | part :: rest => markLast ',' part ++ separated rest

/-- Lines that are moved to the right. -/
def indented (width : Nat) (lines : List (List Char)) : List (List Char) :=
  lines.map (List.replicate width ' ' ++ ·)

mutual

/-- The lines of a document whose levels are indented by a width. The layout only tells how texts
are written. -/
def lines (layout : Layout) (width : Nat) : Json → List (List Char)
  | .arr (item :: rest) =>
    ['['] :: indented width (separated (lines layout width item :: itemLines layout width rest))
      ++ [[']']]
  | .obj ((key, value) :: rest) =>
    ['{'] :: indented width (separated
        (startFirst (writeText layout key ++ [':', ' ']) (lines layout width value)
          :: fieldLines layout width rest))
      ++ [['}']]
  | document => [write layout 0 document]

/-- The lines of each item of a list. -/
def itemLines (layout : Layout) (width : Nat) : List Json → List (List (List Char))
  | [] => []
  | item :: rest => lines layout width item :: itemLines layout width rest

/-- The lines of each entry of an object. -/
def fieldLines (layout : Layout) (width : Nat) : List (String × Json) → List (List (List Char))
  | [] => []
  | (key, value) :: rest =>
    startFirst (writeText layout key ++ [':', ' ']) (lines layout width value)
      :: fieldLines layout width rest

end

/-! ## What is written -/

section Breaks

variable {lineBreak : List Char}

/-- A mark at the end of the last line stands at the end of all. -/
theorem flatMap_markLast (mark : Char) {lines : List (List Char)} (h : lines ≠ []) :
    (markLast mark lines).flatMap (lineBreak ++ ·) = lines.flatMap (lineBreak ++ ·) ++ [mark] := by
  fun_induction markLast mark lines with
  | case1 => exact absurd rfl h
  | case2 line => simp
  | case3 line rest hrest ih =>
    simp only [List.flatMap_cons, ih hrest, List.append_assoc]

/-- After the last line of a part stands a comma, if another part follows. -/
theorem flatMap_separated_cons {part next : List (List Char)} (rest : List (List (List Char)))
    (h : part ≠ []) :
    (separated (part :: next :: rest)).flatMap (lineBreak ++ ·) =
      part.flatMap (lineBreak ++ ·) ++
        ',' :: (separated (next :: rest)).flatMap (lineBreak ++ ·) := by
  rw [separated, List.flatMap_append, flatMap_markLast ',' h, List.append_assoc,
    List.singleton_append]
  simp

/-- What the first line starts with stands after the first break. -/
theorem flatMap_startFirst (start : List Char) {lines : List (List Char)} {text : List Char}
    (h : lines.flatMap (lineBreak ++ ·) = lineBreak ++ text) (hne : lines ≠ []) :
    (startFirst start lines).flatMap (lineBreak ++ ·) = lineBreak ++ (start ++ text) := by
  cases lines with
  | nil => exact absurd rfl hne
  | cons line rest =>
    rw [List.flatMap_cons, List.append_assoc, List.append_cancel_left_eq] at h
    rw [startFirst, List.flatMap_cons, List.append_assoc, List.append_assoc, h]

end Breaks

variable {layout : Layout} {width : Nat}

theorem lines_ne_nil (document : Json) : lines layout width document ≠ [] := by
  unfold lines
  split <;> simp

theorem startFirst_lines_ne_nil (start : List Char) (document : Json) :
    startFirst start (lines layout width document) ≠ [] := by
  obtain ⟨line, rest, h⟩ := List.exists_cons_of_ne_nil (@lines_ne_nil layout width document)
  simp [h, startFirst]

/-- Lines that are moved to the right stand at the next level. -/
theorem flatMap_indented (h : layout.indent = some width) (level : Nat) (lines : List (List Char)) :
    (indented width lines).flatMap (layout.lineBreak level ++ ·) =
      lines.flatMap (layout.lineBreak (level + 1) ++ ·) := by
  have hbreak : ∀ line : List Char, layout.lineBreak level ++ (List.replicate width ' ' ++ line) =
      layout.lineBreak (level + 1) ++ line := by
    intro line
    simp [Layout.lineBreak, h, Nat.mul_succ, ← List.replicate_append_replicate]
  simp only [indented, List.flatMap_map, hbreak]

/-- What is written for an entry are the lines of its value, the first of which starts with the
key. -/
theorem lineBreak_entry (h : layout.indent = some width) (key : String) {value : Json} {level : Nat}
    (hvalue : (lines layout width value).flatMap (layout.lineBreak level ++ ·) =
      layout.lineBreak level ++ write layout level value) :
    (startFirst (writeText layout key ++ [':', ' ']) (lines layout width value)).flatMap
        (layout.lineBreak level ++ ·) =
      layout.lineBreak level ++
        (writeText layout key ++ (layout.colon ++ write layout level value)) := by
  have hcolon : layout.colon = [':', ' '] := by rw [Layout.colon, h]
  rw [flatMap_startFirst _ hvalue (lines_ne_nil value), hcolon, List.append_assoc]

mutual

/-- **What is written at a level are the lines**, each after a break to the level. -/
theorem lineBreak_write (h : layout.indent = some width) : (document : Json) → ∀ level,
    (lines layout width document).flatMap (layout.lineBreak level ++ ·) =
      layout.lineBreak level ++ write layout level document
  | .null, level | .bool true, level | .bool false, level | .int _, level | .double _, level
  | .str _, level | .arr [], level | .obj [], level => by simp [lines, write]
  | .arr (item :: rest), level => by
    have hitem := lineBreak_write h item (level + 1)
    have hrest := lineBreak_writeItems h rest level (lines_ne_nil item) hitem
    simp only [lines, write, List.flatMap_append, List.flatMap_cons, List.flatMap_nil,
      flatMap_indented h, List.append_assoc, List.append_nil, List.cons_append, List.nil_append,
      hrest]
  | .obj ((key, value) :: rest), level => by
    have hentry := lineBreak_entry h key (lineBreak_write h value (level + 1))
    have hrest := lineBreak_writeFields h rest level (startFirst_lines_ne_nil _ value) hentry
    simp only [lines, write, List.flatMap_append, List.flatMap_cons, List.flatMap_nil,
      flatMap_indented h, List.append_assoc, List.append_nil, List.cons_append, List.nil_append,
      hrest]

/-- So are the items of a list after a first part, up to the end of the list. -/
theorem lineBreak_writeItems (h : layout.indent = some width) : (items : List Json) → ∀ level
    {part : List (List Char)} {text : List Char}, part ≠ [] →
    part.flatMap (layout.lineBreak (level + 1) ++ ·) = layout.lineBreak (level + 1) ++ text →
    (separated (part :: itemLines layout width items)).flatMap (layout.lineBreak (level + 1) ++ ·)
        ++ (layout.lineBreak level ++ [']']) =
      layout.lineBreak (level + 1) ++ (text ++ writeItems layout level items)
  | [], level, part, text, _, hpart => by
    rw [itemLines, separated, hpart, writeItems, List.append_assoc]
  | item :: items, level, part, text, hne, hpart => by
    have hrest := lineBreak_writeItems h items level (lines_ne_nil item)
      (lineBreak_write h item (level + 1))
    rw [itemLines, flatMap_separated_cons _ hne, hpart, List.append_assoc, List.cons_append, hrest,
      writeItems]
    simp only [List.append_assoc, List.cons_append]

/-- So are the entries of an object after a first part, up to the end of the object. -/
theorem lineBreak_writeFields (h : layout.indent = some width) :
    (fields : List (String × Json)) → ∀ level {part : List (List Char)} {text : List Char},
    part ≠ [] →
    part.flatMap (layout.lineBreak (level + 1) ++ ·) = layout.lineBreak (level + 1) ++ text →
    (separated (part :: fieldLines layout width fields)).flatMap (layout.lineBreak (level + 1) ++ ·)
        ++ (layout.lineBreak level ++ ['}']) =
      layout.lineBreak (level + 1) ++ (text ++ writeFields layout level fields)
  | [], level, part, text, _, hpart => by
    rw [fieldLines, separated, hpart, writeFields, List.append_assoc]
  | (key, value) :: fields, level, part, text, hne, hpart => by
    have hentry := lineBreak_entry h key (lineBreak_write h value (level + 1))
    have hrest := lineBreak_writeFields h fields level (startFirst_lines_ne_nil _ value) hentry
    rw [fieldLines, flatMap_separated_cons _ hne, hpart, List.append_assoc, List.cons_append, hrest,
      writeFields]
    simp only [List.append_assoc, List.cons_append]

end

/-- **What is written are the lines**, each with a line break at its end. -/
theorem write_eq_lines (h : layout.indent = some width) (document : Json) :
    write layout 0 document ++ ['
'] = (lines layout width document).flatMap (· ++ ['
']) := by
  have hshift : ∀ lines : List (List Char),
      lines.flatMap (['
'] ++ ·) ++ ['
'] = '
' :: lines.flatMap (· ++ ['
']) := by
    intro lines
    induction lines with
    | nil => rfl
    | cons line rest ih => simpa using ih
  have hzero : layout.lineBreak 0 = ['
'] := by simp [Layout.lineBreak, h]
  have hwrite := lineBreak_write h document 0
  rw [hzero] at hwrite
  have hlines := hshift (lines layout width document)
  rw [hwrite, List.singleton_append, List.cons_append] at hlines
  exact (List.cons.inj hlines).2

end NetworkIntent.Json
