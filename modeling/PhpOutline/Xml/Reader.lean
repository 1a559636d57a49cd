import PhpOutline.Xml.Element
import PhpOutline.Xml.Name

/-!
# Reading elements

Text to elements. A text is read in two steps: it is cut into pieces (tags, characters and the
characters that references stand for), and the pieces are put together to a tree. Comments and
processing instructions are dropped.

A text that is not well-formed is refused. The text comes without a document type, so the five
predefined entities are the only ones.

Results:
* `piece?_length`: every piece takes at least one character.
-/

namespace PhpOutline.Xml

/-- A part of a document. -/
inductive Piece where
  | start (tag : String) (attributes : List Attribute)
  | close (tag : String)
  | literal (c : Char)
  | reference (c : Char)
  | characters (text : List Char)
  deriving DecidableEq, Repr

/-! ## Cutting -/

/-- The text before and after the first occurrence of a pattern. -/
def cut? (pattern : List Char) : List Char → Option (List Char × List Char)
  | [] => none
  | c :: r =>
    if pattern.isPrefixOf (c :: r) then some ([], r.drop (pattern.length - 1))
    else (cut? pattern r).map fun (before, after) => (c :: before, after)

theorem cut?_length {pattern cs before after : List Char}
    (h : cut? pattern cs = some (before, after)) : after.length < cs.length := by
  induction cs generalizing before after with
  | nil => simp [cut?] at h
  | cons c r ih =>
    rw [cut?] at h
    split at h
    · obtain ⟨rfl, rfl⟩ := by simpa using h
      simp only [List.length_drop, List.length_cons]; omega
    · obtain ⟨⟨b, a⟩, hcut, heq⟩ := Option.map_eq_some_iff.1 h
      obtain ⟨rfl, rfl⟩ := by simpa using heq
      have := ih hcut
      simp; omega

theorem length_dropWhile_le (p : Char → Bool) (cs : List Char) :
    (cs.dropWhile p).length ≤ cs.length := (List.dropWhile_sublist p).length_le

/-- A name and the text after it. -/
def name? (cs : List Char) : Option (String × List Char) :=
  match cs with
  | [] => none
  | c :: r =>
    if isNameStart c then
      some (String.ofList (c :: r.takeWhile isNamePart), r.dropWhile isNamePart)
    else none

theorem name?_length {cs rest : List Char} {name : String} (h : name? cs = some (name, rest)) :
    rest.length < cs.length := by
  unfold name? at h
  split at h
  · simp at h
  · split at h
    · obtain ⟨_, rfl⟩ := by simpa using h
      have := length_dropWhile_le isNamePart
      exact Nat.lt_succ_of_le (this _)
    · simp at h

/-! ## References -/

/-- The value of a digit in a base up to sixteen. -/
def digitValue? (base : Nat) (c : Char) : Option Nat :=
  let value :=
    if c.isDigit then some (c.toNat - 48)
    else if 'a' ≤ c ∧ c ≤ 'f' then some (c.toNat - 87)
    else if 'A' ≤ c ∧ c ≤ 'F' then some (c.toNat - 55)
    else none
  value.filter (· < base)

/-- The value of a non-empty row of digits. -/
def digitsValue? (base : Nat) (digits : List Char) : Option Nat :=
  if digits.isEmpty then none
  else (digits.mapM (digitValue? base)).map fun values => values.foldl (fun n d => n * base + d) 0

/-- The character with a given number, if it may occur in a document. -/
def numberedChar? (n : Nat) : Option Char :=
  if n.isValidChar then some (Char.ofNat n) |>.filter isXmlChar else none

/-- The character that the name of a reference stands for. -/
def referenced? (body : List Char) : Option Char :=
  match body with
  | '#' :: 'x' :: digits => (digitsValue? 16 digits).bind numberedChar?
  | '#' :: digits => (digitsValue? 10 digits).bind numberedChar?
  | _ => [("amp", '&'), ("lt", '<'), ("gt", '>'), ("quot", '"'), ("apos", '\'')].lookup
      (String.ofList body)

/-- A reference whose ampersand has been read, and the text after it. -/
def reference? (cs : List Char) : Option (Char × List Char) :=
  match cut? [';'] cs with
  | none => none
  | some (body, rest) => (referenced? body).map fun c => (c, rest)

theorem reference?_length {cs rest : List Char} {c : Char}
    (h : reference? cs = some (c, rest)) : rest.length < cs.length := by
  unfold reference? at h
  split at h
  · simp at h
  · rename_i body after hcut
    obtain ⟨d, _, heq⟩ := Option.map_eq_some_iff.1 h
    obtain ⟨_, rfl⟩ := by simpa using heq
    exact cut?_length hcut

/-! ## Tags -/

/-- An attribute value through its closing quote, and the text after it. White space counts as
    spaces. -/
def value? (quote : Char) (cs : List Char) : Option (List Char × List Char) :=
  match cs with
  | [] => none
  | c :: r =>
    if c = quote then some ([], r)
    else if c = '<' then none
    else if c = '&' then
      match h : reference? r with
      | none => none
      | some (d, r') =>
        have : r'.length < r.length := reference?_length h
        (value? quote r').map fun (value, rest) => (d :: value, rest)
    else
      (value? quote r).map fun (value, rest) =>
        ((if isXmlBlank c then ' ' else c) :: value, rest)
termination_by cs.length

theorem value?_length {quote : Char} {cs value rest : List Char}
    (h : value? quote cs = some (value, rest)) : rest.length < cs.length := by
  fun_induction value? quote cs generalizing value rest with
  | case1 => simp at h
  | case2 => simp at h; obtain ⟨_, rfl⟩ := h; simp
  | case3 => simp at h
  | case4 => simp at h
  | case5 c r hq d r' href hlt ih =>
    obtain ⟨⟨v, a⟩, hv, heq⟩ := Option.map_eq_some_iff.1 h
    obtain ⟨_, rfl⟩ := by simpa using heq
    have := ih hv
    simp; omega
  | case6 c r hq hl ha ih =>
    obtain ⟨⟨v, a⟩, hv, heq⟩ := Option.map_eq_some_iff.1 h
    obtain ⟨_, rfl⟩ := by simpa using heq
    have := ih hv
    simp; omega

/-- The text after an equals sign with white space around it. -/
def equals? (cs : List Char) : Option (List Char) :=
  match cs.dropWhile isXmlBlank with
  | '=' :: r => some (r.dropWhile isXmlBlank)
  | _ => none

theorem equals?_length {cs rest : List Char} (h : equals? cs = some rest) :
    rest.length < cs.length := by
  unfold equals? at h
  split at h
  · rename_i r heq
    have h1 := length_dropWhile_le isXmlBlank cs
    have h2 := length_dropWhile_le isXmlBlank r
    obtain rfl := by simpa using h
    rw [heq] at h1
    simp at h1; omega
  · simp at h

/-- An attribute and the text after it. -/
def attribute? (cs : List Char) : Option (Attribute × List Char) :=
  match name? cs with
  | none => none
  | some (name, r) =>
    match equals? r with
    | some (q :: r) =>
      if q = '"' ∨ q = '\'' then
        (value? q r).map fun (value, rest) => ((name, String.ofList value), rest)
      else none
    | _ => none

theorem attribute?_length {cs rest : List Char} {a : Attribute}
    (h : attribute? cs = some (a, rest)) : rest.length < cs.length := by
  unfold attribute? at h
  split at h
  · simp at h
  · rename_i name r hname
    split at h
    · rename_i q r' heq
      split at h
      · obtain ⟨⟨v, rest'⟩, hv, he⟩ := Option.map_eq_some_iff.1 h
        obtain ⟨_, rfl⟩ := by simpa using he
        have h1 := name?_length hname
        have h2 := equals?_length heq
        have h3 := value?_length hv
        simp at h2; omega
      · simp at h
    · simp at h

/-- The attributes of a tag whose name has been read, whether it is an empty tag, and the text
    after it. -/
def attributes? (cs : List Char) : Option (List Attribute × Bool × List Char) :=
  match hcs : cs.dropWhile isXmlBlank with
  | '>' :: r => some ([], false, r)
  | '/' :: '>' :: r => some ([], true, r)
  | later =>
    if cs.head?.any isXmlBlank then
      match h : attribute? later with
      | none => none
      | some (a, r) =>
        have : r.length < cs.length := by
          have h1 := attribute?_length h
          have h2 := length_dropWhile_le isXmlBlank cs
          rw [hcs] at h2
          omega
        match attributes? r with
        | none => none
        | some (as, isEmpty, rest) =>
          if (as.lookup a.1).isSome then none else some (a :: as, isEmpty, rest)
    else none
termination_by cs.length

theorem attributes?_length {cs rest : List Char} {as : List Attribute} {isEmpty : Bool}
    (h : attributes? cs = some (as, isEmpty, rest)) : rest.length < cs.length := by
  fun_induction attributes? cs generalizing as isEmpty rest with
  | case1 cs r hcs =>
    have h1 := length_dropWhile_le isXmlBlank cs
    obtain ⟨_, _, rfl⟩ := by simpa using h
    rw [hcs] at h1
    simp at h1; omega
  | case2 cs r hcs =>
    have h1 := length_dropWhile_le isXmlBlank cs
    obtain ⟨_, _, rfl⟩ := by simpa using h
    rw [hcs] at h1
    simp at h1; omega
  | case3 => simp at h
  | case4 => simp at h
  | case5 => simp at h
  | case6 cs hb a r as' isEmpty' rest' hrec hdup _ _ ha hlt ih =>
    obtain ⟨_, _, rfl⟩ := by simpa using h
    have := ih hrec
    omega
  | case7 => simp at h

/-- A starting tag whose bracket has been read, and the text after it. -/
def startTag? (cs : List Char) : Option (List Piece × List Char) :=
  match name? cs with
  | none => none
  | some (tag, r) =>
    (attributes? r).map fun (as, isEmpty, rest) =>
      (.start tag as :: (if isEmpty then [.close tag] else []), rest)

theorem startTag?_length {cs rest : List Char} {ps : List Piece}
    (h : startTag? cs = some (ps, rest)) : rest.length < cs.length := by
  unfold startTag? at h
  split at h
  · simp at h
  · rename_i tag r hname
    obtain ⟨⟨as, isEmpty, rest'⟩, ha, heq⟩ := Option.map_eq_some_iff.1 h
    obtain ⟨_, rfl⟩ := by simpa using heq
    have h1 := name?_length hname
    have h2 := attributes?_length ha
    omega

/-- A closing tag whose bracket and slash have been read, and the text after it. -/
def closeTag? (cs : List Char) : Option (List Piece × List Char) :=
  match name? cs with
  | none => none
  | some (tag, r) =>
    match r.dropWhile isXmlBlank with
    | '>' :: rest => some ([.close tag], rest)
    | _ => none

theorem closeTag?_length {cs rest : List Char} {ps : List Piece}
    (h : closeTag? cs = some (ps, rest)) : rest.length < cs.length := by
  unfold closeTag? at h
  split at h
  · simp at h
  · rename_i tag r hname
    split at h
    · rename_i rest' heq
      obtain ⟨_, rfl⟩ := by simpa using h
      have h1 := name?_length hname
      have h2 := length_dropWhile_le isXmlBlank r
      rw [heq] at h2
      simp at h2; omega
    · simp at h

/-! ## Other markup -/

/-- A processing instruction whose bracket and question mark have been read; it gives no piece. The
    target `xml` is reserved. -/
def instruction? (cs : List Char) : Option (List Piece × List Char) :=
  match name? cs with
  | none => none
  | some (target, r) =>
    if target.map Char.toLower = "xml" then none
    else if ['?', '>'].isPrefixOf r then some ([], r.drop 2)
    else if r.head?.any isXmlBlank then (cut? ['?', '>'] r).map fun (_, rest) => ([], rest)
    else none

theorem instruction?_length {cs rest : List Char} {ps : List Piece}
    (h : instruction? cs = some (ps, rest)) : rest.length < cs.length := by
  unfold instruction? at h
  split at h
  · simp at h
  · rename_i target r hname
    have h1 := name?_length hname
    split at h
    · simp at h
    · split at h
      · obtain ⟨_, rfl⟩ := by simpa using h
        simp; omega
      · split at h
        · obtain ⟨⟨b, rest'⟩, hcut, heq⟩ := Option.map_eq_some_iff.1 h
          obtain ⟨_, rfl⟩ := by simpa using heq
          have := cut?_length hcut
          omega
        · simp at h

/-- A comment whose opening has been read; it gives no piece and holds no two hyphens. -/
def comment? (cs : List Char) : Option (List Piece × List Char) :=
  match cut? ['-', '-'] cs with
  | some (_, '>' :: rest) => some ([], rest)
  | _ => none

theorem comment?_length {cs rest : List Char} {ps : List Piece}
    (h : comment? cs = some (ps, rest)) : rest.length < cs.length := by
  unfold comment? at h
  split at h
  · rename_i before rest' hcut
    obtain ⟨_, rfl⟩ := by simpa using h
    have := cut?_length hcut
    simp at this; omega
  · simp at h

/-- Markup whose opening bracket has been read. -/
def markup? (cs : List Char) : Option (List Piece × List Char) :=
  match cs with
  | '/' :: r => closeTag? r
  | '?' :: r => instruction? r
  | '!' :: '-' :: '-' :: r => comment? r
  | '!' :: r =>
    if "[CDATA[".toList.isPrefixOf r then
      (cut? [']', ']', '>'] (r.drop 7)).map fun (text, rest) => ([.characters text], rest)
    else none
  | _ => startTag? cs

theorem markup?_length {cs rest : List Char} {ps : List Piece}
    (h : markup? cs = some (ps, rest)) : rest.length < cs.length := by
  unfold markup? at h
  split at h
  · have := closeTag?_length h; simp; omega
  · have := instruction?_length h; simp; omega
  · have := comment?_length h; simp; omega
  · split at h
    · obtain ⟨⟨text, rest'⟩, hcut, heq⟩ := Option.map_eq_some_iff.1 h
      obtain ⟨_, rfl⟩ := by simpa using heq
      have := cut?_length hcut
      simp at this ⊢; omega
    · simp at h
  · exact startTag?_length h

/-- The pieces at the front of a text and the text after them. -/
def piece? (cs : List Char) : Option (List Piece × List Char) :=
  match cs with
  | [] => none
  | c :: r =>
    if c = '<' then markup? r
    else if c = '&' then (reference? r).map fun (d, rest) => ([.reference d], rest)
    else if [']', ']', '>'].isPrefixOf (c :: r) then none
    else some ([.literal c], r)

theorem piece?_length {cs rest : List Char} {ps : List Piece} (h : piece? cs = some (ps, rest)) :
    rest.length < cs.length := by
  unfold piece? at h
  split at h
  · simp at h
  · split at h
    · have := markup?_length h; simp; omega
    · split at h
      · obtain ⟨⟨d, rest'⟩, href, heq⟩ := Option.map_eq_some_iff.1 h
        obtain ⟨_, rfl⟩ := by simpa using heq
        have := reference?_length href
        simp; omega
      · split at h
        · simp at h
        · obtain ⟨_, rfl⟩ := by simpa using h
          simp

/-- The pieces of a text. -/
def pieces? (cs : List Char) : Option (List Piece) :=
  if cs.isEmpty then some []
  else
    match h : piece? cs with
    | none => none
    | some (ps, rest) =>
      have : rest.length < cs.length := piece?_length h
      (pieces? rest).map (ps ++ ·)
termination_by cs.length

/-! ## Trees -/

/-- The first element that the pieces make up, and the pieces after it. The list holds the elements
    that are open, the innermost first. Outside of all elements only white space may stand. -/
def element? : List Element → List Piece → Option (Element × List Piece)
  | _, [] => none
  | [], .start tag attributes :: ps => element? [⟨tag, attributes, .empty⟩] ps
  | [], .literal c :: ps => if isXmlBlank c then element? [] ps else none
  | [], _ :: _ => none
  | e :: es, .start tag attributes :: ps => element? (⟨tag, attributes, .empty⟩ :: e :: es) ps
  | e :: es, .literal c :: ps => element? (e.pushChar c :: es) ps
  | e :: es, .reference c :: ps => element? (e.pushChar c :: es) ps
  | e :: es, .characters text :: ps => element? (text.foldl Element.pushChar e :: es) ps
  | [e], .close tag :: ps => if tag = e.tag then some (e, ps) else none
  | e :: parent :: es, .close tag :: ps =>
    if tag = e.tag then element? (parent.push e :: es) ps else none

/-- White space outside of all elements. -/
def Piece.isSpace : Piece → Bool
  | .literal c => isXmlBlank c
  | _ => false

/-! ## Documents -/

/-- A text with every line end written as a line feed. -/
def unifyLineEnds : List Char → List Char
  | [] => []
  | c :: r =>
    if c = '\r' then
      if r.head? = some '\n' then unifyLineEnds r else '\n' :: unifyLineEnds r
    else c :: unifyLineEnds r

/-- A character of a value in the declaration of a document. -/
def isDeclaredChar (c : Char) : Bool := c.isAlphanum || "._-".toList.contains c

/-- A part of the declaration of a document: white space, a given name, and a value of letters,
    digits, points, hyphens and underscores. -/
def declared? (name : String) (cs : List Char) : Option (String × List Char) :=
  if cs.head?.any isXmlBlank then do
    let (found, r) ← name? (cs.dropWhile isXmlBlank)
    match ← equals? r with
    | quote :: r =>
      let value := r.takeWhile isDeclaredChar
      match r.dropWhile isDeclaredChar with
      | stop :: rest =>
        if found = name ∧ (quote = '"' ∨ quote = '\'') ∧ stop = quote then
          some (String.ofList value, rest)
        else none
      | [] => none
    | [] => none
  else none

/-- The text after a declaration whose first five characters have been read. -/
def declaration? (cs : List Char) : Option (List Char) := do
  let (_, cs) ← declared? "version" cs
  let cs ← match declared? "encoding" cs with
    | some (encoding, rest) => if encoding.toList.head?.any Char.isAlpha then some rest else none
    | none => some cs
  let cs ← match declared? "standalone" cs with
    | some (value, rest) => if value = "yes" ∨ value = "no" then some rest else none
    | none => some cs
  match cs.dropWhile isXmlBlank with
  | '?' :: '>' :: rest => some rest
  | _ => none

/-- The text after the byte order mark and the declaration, both of which may be missing. -/
def prolog? (cs : List Char) : Option (List Char) :=
  let cs := if cs.head? = some '\uFEFF' then cs.drop 1 else cs
  if "<?xml".toList.isPrefixOf cs && (cs.drop 5).head?.any isXmlBlank then
    declaration? (cs.drop 5)
  else some cs

/-- The element that a text consists of. -/
def Element.read? (source : String) : Option Element :=
  let cs := source.toList
  if cs.all isXmlChar then do
    let body ← prolog? (unifyLineEnds cs)
    let ps ← pieces? body
    let (e, after) ← element? [] ps
    if after.all Piece.isSpace then some e else none
  else none

end PhpOutline.Xml
