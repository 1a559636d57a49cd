import PhpOutline.Proofs.Utf8
import PhpOutline.SourceFile.Loading

/-!
# The text of a file

What comes of the bytes of a file, whatever encodings there are. Bytes in well-formed UTF-8 are
decoded as such, and the name of the other encoding is not looked at. All other bytes are decoded in
the other encoding, which is reported once. If no encoding has the name, then there is no text, and
a message says so. A name that the system does not take, or an encoding that breaks off, has no such
message.

Results:
* `transcode_of_known`, `transcode_of_unknown`, `transcode_of_unusable`: the other encoding.
* `decode_of_bytes`, `decode_of_transcode`: which encoding is taken.
* `getElem?_latin1`: Latin-1 keeps the numbers of the bytes.
* `load_file`: what comes of every file.
-/

namespace PhpOutline

open Text

namespace SourceText

variable {codecs : Codecs} {path encoding : String} {raw : List UInt8}

/-! ## The mark at the start -/

theorem dropMark_eq_self {cs : List Char} (h : cs.head? ≠ some '\ufeff') :
    Utf8.dropMark cs = cs := by
  cases cs with
  | nil => rfl
  | cons c cs => exact if_neg fun hc => h (congrArg some hc)

/-- A text is what is left of it without the mark, or the mark stands before that. -/
theorem eq_or_eq_mark_append (s : String) :
    (s.toList.head? ≠ some '\ufeff' ∧ s = String.ofList (Utf8.dropMark s.toList)) ∨
      s = "\ufeff" ++ String.ofList (Utf8.dropMark s.toList) := by
  by_cases hhead : s.toList.head? = some '\ufeff'
  · right
    obtain ⟨cs, hs⟩ := List.head?_eq_some_iff.1 hhead
    have hmark : "\ufeff".toList = ['\ufeff'] := by decide
    apply String.toList_injective
    rw [String.toList_append, hmark, hs, String.toList_ofList]
    rfl
  · left
    exact ⟨hhead, by rw [dropMark_eq_self hhead, String.ofList_toList]⟩

/-! ## The other encoding -/

theorem isUsableName_iff : isUsableName encoding = true ↔ '\x00' ∉ encoding.toList := by
  rw [isUsableName, Bool.not_eq_true', Bool.eq_false_iff, Ne, List.contains_iff_mem]

theorem transcode_of_known {codec : List UInt8 → Except String (List Char)}
    (hname : '\x00' ∉ encoding.toList) (hcodec : codecs encoding = some codec) :
    transcode codecs encoding raw = (codec raw).mapError (.broken encoding) := by
  rw [transcode, if_pos (isUsableName_iff.2 hname), hcodec]

theorem transcode_of_unknown (hname : '\x00' ∉ encoding.toList) (hcodec : codecs encoding = none) :
    transcode codecs encoding raw = .error (.unknownEncoding encoding) := by
  rw [transcode, if_pos (isUsableName_iff.2 hname), hcodec]

theorem transcode_of_unusable (hname : '\x00' ∈ encoding.toList) :
    transcode codecs encoding raw = .error (.unusableName encoding) := by
  rw [transcode, if_neg fun husable => isUsableName_iff.1 husable hname]

/-! ## The encoding that is taken -/

theorem decode_of_bytes {s : String} (h : raw.toByteArray = s.toUTF8) (path encoding : String) :
    decode codecs path encoding raw = ([], .ok (String.ofList (Utf8.dropMark s.toList))) := by
  rw [decode, Utf8.decode?_eq_some_toList_iff.2 h]

theorem exists_string_of_wellFormed (h : Utf8.WellFormed raw) :
    ∃ s : String, raw.toByteArray = s.toUTF8 := by
  obtain ⟨cs, hcs⟩ := Utf8.exists_decode?_of_wellFormed h
  exact ⟨String.ofList cs, Utf8.decode?_eq_some_toList_iff.1 (by rw [hcs, String.toList_ofList])⟩

theorem decode_of_transcode {cs : List Char} (h : ¬ Utf8.WellFormed raw)
    (hcs : transcode codecs encoding raw = .ok cs) :
    decode codecs path encoding raw = ([.transcoded path encoding], .ok (String.ofList cs)) := by
  rw [decode, Utf8.decode?_eq_none_of_not_wellFormed h, hcs]

theorem decode_of_transcode_error {e : LoadError} (h : ¬ Utf8.WellFormed raw)
    (he : transcode codecs encoding raw = .error e) :
    decode codecs path encoding raw = ([], .error e) := by
  rw [decode, Utf8.decode?_eq_none_of_not_wellFormed h, he]

/-! ## Latin-1 -/

/-- The encoding in which each byte is the character of the same number. -/
def latin1 (bytes : List UInt8) : Except String (List Char) :=
  .ok (bytes.map fun b => Char.ofNat b.toNat)

theorem getElem?_latin1 {i : Nat} {b : UInt8} (h : raw[i]? = some b) :
    ∃ x, (raw.map fun b => Char.ofNat b.toNat)[i]? = some x ∧ x.toNat = b.toNat := by
  refine ⟨Char.ofNat b.toNat, ?_, ?_⟩
  · rw [List.getElem?_map, h]
    rfl
  · exact Utf8.val_ofNat (.inl (Nat.lt_trans b.toNat_lt (by decide)))

/-! ## Files -/

/-- What comes of the file at a path, whose bytes are `raw`, where there are the encodings
    `codecs`. -/
structure LoadsFile (codecs : Codecs) (look : Path → Sight) (path : Path) (raw : List UInt8) :
    Prop where
  /-- Well-formed bytes are decoded as UTF-8, one mark at the start left out. Nothing is reported,
      and the name of the encoding makes no difference. -/
  wellFormed : Utf8.WellFormed raw →
    ∃ s contents : String, raw.toByteArray = s.toUTF8 ∧
      ((s.toList.head? ≠ some '\ufeff' ∧ s = contents) ∨ s = "\ufeff" ++ contents) ∧
      ∀ encoding, load codecs look path encoding = ([], .ok ⟨path.text, contents, Md5.digest raw⟩)
  /-- The bytes of a text without a mark at its start give that text. -/
  unmarked : ∀ s : String, s.toList.head? ≠ some '\ufeff' → raw.toByteArray = s.toUTF8 →
    ∀ encoding, load codecs look path encoding = ([], .ok ⟨path.text, s, Md5.digest raw⟩)
  /-- Other bytes have in Latin-1 the characters of the same numbers. One warning is reported. -/
  inLatin1 : ¬ Utf8.WellFormed raw → ∀ encoding, '\x00' ∉ encoding.toList →
    codecs encoding = some latin1 →
      ∃ contents, load codecs look path encoding =
          ([.transcoded path.text encoding], .ok ⟨path.text, contents, Md5.digest raw⟩) ∧
        contents.length = raw.length ∧
        ∀ (i : Nat) (b : UInt8), raw[i]? = some b →
          ∃ x : Char, contents.toList[i]? = some x ∧ x.toNat = b.toNat
  /-- Other bytes have no text if no encoding has the name, and a message says so. -/
  unknown : ¬ Utf8.WellFormed raw → ∀ encoding, '\x00' ∉ encoding.toList →
    codecs encoding = none →
      ∃ e, load codecs look path encoding = ([], .error e) ∧
        e.message? = some s!"Unknown fallback encoding '{encoding}'"
  /-- The system breaks off at a name with the character that ends a text, before the name is looked
      up. There is no message. -/
  unusable : ¬ Utf8.WellFormed raw → ∀ encoding, '\x00' ∈ encoding.toList →
    ∃ e, load codecs look path encoding = ([], .error e) ∧ e.message? = none
  /-- So does an encoding that breaks off itself. -/
  broken : ¬ Utf8.WellFormed raw → ∀ encoding codec reason, '\x00' ∉ encoding.toList →
    codecs encoding = some codec → codec raw = .error reason →
      ∃ e, load codecs look path encoding = ([], .error e) ∧ e.message? = none

section OneFile

variable {look : Path → Sight} {path : Path}

theorem load_eq (hfile : look path = .file raw) (encoding : String) :
    load codecs look path encoding =
      ((decode codecs path.text encoding raw).1,
        (decode codecs path.text encoding raw).2.map fun contents =>
          ⟨path.text, contents, Md5.digest raw⟩) := by
  rw [load, hfile]

theorem load_of_bytes {s : String} (hfile : look path = .file raw)
    (h : raw.toByteArray = s.toUTF8) (encoding : String) :
    load codecs look path encoding =
      ([], .ok ⟨path.text, String.ofList (Utf8.dropMark s.toList), Md5.digest raw⟩) := by
  rw [load_eq hfile, decode_of_bytes h]
  rfl

theorem load_of_transcode_error {e : LoadError} (hfile : look path = .file raw)
    (h : ¬ Utf8.WellFormed raw) (he : transcode codecs encoding raw = .error e) :
    load codecs look path encoding = ([], .error e) := by
  rw [load_eq hfile, decode_of_transcode_error h he]
  rfl

/-- Every file that is there and can be read is decoded as its bytes and the other encoding say. -/
theorem load_file (codecs : Codecs) (hfile : look path = .file raw) :
    (∀ encoding, (Event.transcoded path.text encoding).record.level = .warning ∧
      (Event.transcoded path.text encoding).record.event = "source_transcoded") ∧
    LoadsFile codecs look path raw := by
  refine ⟨fun _ => ⟨rfl, rfl⟩, ⟨fun h => ?_, fun s hs h encoding => ?_,
    fun h encoding hname hcodec => ?_, fun h encoding hname hcodec => ?_,
    fun h encoding hname => ?_, fun h encoding codec reason hname hcodec hreason => ?_⟩⟩
  · obtain ⟨s, hs⟩ := exists_string_of_wellFormed h
    exact ⟨s, _, hs, eq_or_eq_mark_append s, load_of_bytes hfile hs⟩
  · rw [load_of_bytes hfile h, dropMark_eq_self hs, String.ofList_toList]
  · refine ⟨String.ofList (raw.map fun b => Char.ofNat b.toNat), ?_, ?_, fun i b hb => ?_⟩
    · rw [load_eq hfile, decode_of_transcode h (transcode_of_known hname hcodec)]
      rfl
    · rw [String.length_ofList, List.length_map]
    · rw [String.toList_ofList]
      exact getElem?_latin1 hb
  · exact ⟨_, load_of_transcode_error hfile h (transcode_of_unknown hname hcodec), rfl⟩
  · exact ⟨_, load_of_transcode_error hfile h (transcode_of_unusable hname), rfl⟩
  · refine ⟨.broken encoding reason, load_of_transcode_error hfile h ?_, rfl⟩
    rw [transcode_of_known hname hcodec, hreason]
    rfl

end OneFile

/-- Two marks, of which one is left out; and the overlong form of a character, in Latin-1, in an
    encoding that is not known, and under a name that the system does not take. -/
theorem load_file_marks_and_overlong :
    let path := Path.ofText "a.php"
    let codecs : Codecs := fun name => if name = "latin-1" then some latin1 else none
    let marked : List UInt8 := [0xEF, 0xBB, 0xBF, 0xEF, 0xBB, 0xBF, 0x41]
    let overlong : List UInt8 := [0xC0, 0x80]
    (Utf8.WellFormed marked ∧ ∀ encoding, load codecs (fun _ => .file marked) path encoding =
      ([], .ok ⟨path.text, "\ufeffA", Md5.digest marked⟩)) ∧
    ¬ Utf8.WellFormed overlong ∧
    (∃ contents, load codecs (fun _ => .file overlong) path "latin-1" =
        ([.transcoded path.text "latin-1"], .ok ⟨path.text, contents, Md5.digest overlong⟩) ∧
      contents.length = 2) ∧
    (∃ e, load codecs (fun _ => .file overlong) path "latin-0" = ([], .error e) ∧
      e.message? = some "Unknown fallback encoding 'latin-0'") ∧
    ∃ e, load codecs (fun _ => .file overlong) path "a\x00b" = ([], .error e) ∧
      e.message? = none := by
  intro path codecs marked overlong
  have hmarked : Utf8.decode? marked = some "\ufeff\ufeffA".toList := by decide +kernel
  have hwellFormed : Utf8.WellFormed marked :=
    Utf8.wellFormed_iff.2 ⟨_, Utf8.decode?_eq_some_iff.1 hmarked⟩
  have hoverlong : ¬ Utf8.WellFormed overlong := by
    intro h
    have hnone : Utf8.decode? overlong = none := by decide +kernel
    obtain ⟨cs, hcs⟩ := Utf8.exists_decode?_of_wellFormed h
    cases hnone.symm.trans hcs
  obtain ⟨-, hfirst⟩ := @load_file marked (fun _ => .file marked) path codecs rfl
  obtain ⟨-, hsecond⟩ := @load_file overlong (fun _ => .file overlong) path codecs rfl
  refine ⟨⟨hwellFormed, ?_⟩, hoverlong, ?_, ?_, ?_⟩
  · obtain ⟨s, contents, hs, hcontents, hload⟩ := hfirst.wellFormed hwellFormed
    have htext : s = "\ufeff\ufeffA" := String.toList_injective
      (Option.some.inj ((Utf8.decode?_eq_some_toList_iff.2 hs).symm.trans hmarked))
    rcases hcontents with ⟨hhead, -⟩ | hmark
    · exact absurd (by rw [htext]; decide) hhead
    · have hrest : contents = "\ufeffA" := by
        have hlists := congrArg String.toList (hmark.symm.trans htext)
        rw [String.toList_append] at hlists
        exact String.toList_injective (List.cons.inj hlists).2
      rwa [hrest] at hload
  · obtain ⟨contents, hload, hlength, -⟩ :=
      hsecond.inLatin1 hoverlong "latin-1" (by decide +kernel) (if_pos rfl)
    exact ⟨contents, hload, hlength⟩
  · exact hsecond.unknown hoverlong "latin-0" (by decide +kernel) (if_neg (by decide))
  · exact hsecond.unusable hoverlong _ (by decide +kernel)

end SourceText

end PhpOutline
