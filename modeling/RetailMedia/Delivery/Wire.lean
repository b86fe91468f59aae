import RetailMedia.Json
import RetailMedia.Lib.JsonDump
import RetailMedia.Lib.Substring

/-! A JSON document as it is sent, and as it is read again. -/

namespace RetailMedia

open JsonText (Text Style Value Limits Reads ReadsField Separates scanOnce scanWith)

/-- `JSONResponse` writes `json.dumps(content, ensure_ascii=False, separators=(",", ":"))`. -/
def responseStyle : Style := { ascii := false, comma := [44], colon := [58] }

/-- `json.dumps(value)`. -/
def defaultStyle : Style := { ascii := true, comma := [44, 32], colon := [58, 32] }

namespace Json

mutual

def text (style : Style) : Json → Text
  | null => JsonText.codes "null"
  | bool b => JsonText.codes (if b then "true" else "false")
  | num n => JsonText.intText n
  | str s => JsonText.quote style.ascii (JsonText.codes s)
  | arr js => JsonText.arrayText style (textItems style js)
  | obj fields => JsonText.objectText style (textFields style fields)

def textItems (style : Style) : List Json → List Text
  | [] => []
  | j :: js => text style j :: textItems style js

def textFields (style : Style) : List (String × Json) → List (Text × Text)
  | [] => []
  | (k, j) :: fields => (JsonText.codes k, text style j) :: textFields style fields

end

/-- The body of a response, in the style in which the framework writes it. -/
def responseBytes (style : Style) (j : Json) : List UInt8 := JsonText.encodeUtf8 (j.text style)

mutual

def toValue : Json → Value
  | null => .null
  | bool b => .bool b
  | num n => .int n
  | str s => .str (JsonText.codes s)
  | arr js => .arr (toValues js)
  | obj fields => .obj (toMembers fields)

def toValues : List Json → List Value
  | [] => []
  | j :: js => toValue j :: toValues js

def toMembers : List (String × Json) → List (Text × Value)
  | [] => []
  | (k, j) :: fields => (JsonText.codes k, toValue j) :: toMembers fields

end

/-! ## Reading back -/

mutual

/-- The limits that the interpreter reads within: how many containers are open at once, and how
long an integer is.  Keys are different from each other. -/
def Readable (digits : Nat) : Nat → Json → Prop
  | _, num n => (JsonText.natText n.natAbs).length ≤ digits
  | 0, arr _ => False
  | depth + 1, arr js => ReadableItems digits depth js
  | 0, obj _ => False
  | depth + 1, obj fields => (fields.map (·.1)).Nodup ∧ ReadableFields digits depth fields
  | _, _ => True

def ReadableItems (digits depth : Nat) : List Json → Prop
  | [] => True
  | j :: js => Readable digits depth j ∧ ReadableItems digits depth js

def ReadableFields (digits depth : Nat) : List (String × Json) → Prop
  | [] => True
  | (_, j) :: fields => Readable digits depth j ∧ ReadableFields digits depth fields

end

mutual

theorem toValue_inj {x y : Json} (h : x.toValue = y.toValue) : x = y := by
  match x with
  | null => cases y <;> simp [toValue] at h ⊢
  | bool a => cases y <;> simp_all [toValue]
  | num a => cases y <;> simp_all [toValue]
  | str a =>
      cases y with
      | str b => exact congrArg str (JsonText.codes_injective (by simpa [toValue] using h))
      | _ => simp [toValue] at h
  | arr xs =>
      cases y with
      | arr ys => exact congrArg arr (toValues_inj (by simpa [toValue] using h))
      | _ => simp [toValue] at h
  | obj fs =>
      cases y with
      | obj gs => exact congrArg obj (toMembers_inj (by simpa [toValue] using h))
      | _ => simp [toValue] at h

theorem toValues_inj {xs ys : List Json} (h : toValues xs = toValues ys) : xs = ys := by
  match xs, ys with
  | [], [] => rfl
  | [], y :: ys => cases h
  | x :: xs, [] => cases h
  | x :: xs, y :: ys =>
      obtain ⟨hx, hxs⟩ := List.cons.inj h
      rw [toValue_inj hx, toValues_inj hxs]

theorem toMembers_inj {fs gs : List (String × Json)} (h : toMembers fs = toMembers gs) :
    fs = gs := by
  match fs, gs with
  | [], [] => rfl
  | [], g :: gs => cases h
  | f :: fs, [] => cases h
  | (k, x) :: fs, (l, y) :: gs =>
      obtain ⟨hf, hfs⟩ := List.cons.inj h
      obtain ⟨hk, hx⟩ := Prod.mk.inj hf
      rw [JsonText.codes_injective hk, toValue_inj hx, toMembers_inj hfs]

end

theorem toMembers_keys (fields : List (String × Json)) :
    (toMembers fields).map (·.1) = fields.map fun f ↦ JsonText.codes f.1 := by
  induction fields with
  | nil => rfl
  | cons f fields ih => exact congrArg _ ih

theorem nodup_toMembers {fields : List (String × Json)} (h : (fields.map (·.1)).Nodup) :
    ((toMembers fields).map (·.1)).Nodup := by
  have hmap : (toMembers fields).map (·.1) = (fields.map (·.1)).map JsonText.codes := by
    rw [toMembers_keys, List.map_map]
    rfl
  rw [hmap]
  exact h.map JsonText.codes_injective

/-- The separators are a comma and a colon, with blanks after them. -/
structure Standard (style : Style) : Prop where
  comma : Separates 44 style.comma
  colon : Separates 58 style.colon

theorem responseStyle_standard : Standard responseStyle where
  comma := ⟨[], rfl, nofun⟩
  colon := ⟨[], rfl, nofun⟩

theorem defaultStyle_standard : Standard defaultStyle where
  comma := ⟨[32], rfl, by decide⟩
  colon := ⟨[32], rfl, by decide⟩

section

variable {limits : Limits} {style : Style}

/-- A scanner for the values of each depth, with the one below for what they contain. -/
theorem scanOnce_inner (limits : Limits) (depth : Nat) :
    ∃ inner, scanOnce limits depth = scanWith limits inner := by
  cases depth with
  | zero => exact ⟨none, rfl⟩
  | succ depth => exact ⟨some (scanOnce limits depth), rfl⟩

mutual

theorem reads_text (hstyle : Standard style) (depth : Nat) (j : Json)
    (h : Readable limits.digits depth j) :
    Reads (scanOnce limits depth) (j.text style) j.toValue := by
  obtain ⟨inner, hinner⟩ := scanOnce_inner limits depth
  match j with
  | null =>
      rw [hinner]
      exact JsonText.reads_keyword limits inner (w := (JsonText.codes "null", .null)) (by decide)
  | bool true =>
      rw [hinner]
      exact JsonText.reads_keyword limits inner (w := (JsonText.codes "true", .bool true))
        (by decide)
  | bool false =>
      rw [hinner]
      exact JsonText.reads_keyword limits inner (w := (JsonText.codes "false", .bool false))
        (by decide)
  | num n =>
      rw [hinner]
      have hlimit : (JsonText.natText n.natAbs).length ≤ limits.digits := by
        simpa [Readable] using h
      exact JsonText.reads_int inner hlimit
  | str s =>
      rw [hinner]
      exact JsonText.reads_string limits inner style.ascii (JsonText.scalar_codes s)
  | arr js =>
      cases depth with
      | zero => exact absurd h (by simp [Readable])
      | succ depth => exact JsonText.reads_array hstyle.comma (reads_textItems hstyle depth js h)
  | obj fields =>
      cases depth with
      | zero => exact absurd h (by simp [Readable])
      | succ depth =>
          exact JsonText.reads_object hstyle.comma hstyle.colon (nodup_toMembers h.1)
            (reads_textFields hstyle depth fields h.2)

theorem reads_textItems (hstyle : Standard style) (depth : Nat) (js : List Json)
    (h : ReadableItems limits.digits depth js) :
    List.Forall₂ (Reads (scanOnce limits depth)) (textItems style js) (toValues js) := by
  match js with
  | [] => exact .nil
  | j :: js => exact .cons (reads_text hstyle depth j h.1) (reads_textItems hstyle depth js h.2)

theorem reads_textFields (hstyle : Standard style) (depth : Nat) (fields : List (String × Json))
    (h : ReadableFields limits.digits depth fields) :
    List.Forall₂ (ReadsField (scanOnce limits depth)) (textFields style fields)
      (toMembers fields) := by
  match fields with
  | [] => exact .nil
  | (k, j) :: fields =>
      exact .cons ⟨rfl, JsonText.scalar_codes k, reads_text hstyle depth j h.1⟩
        (reads_textFields hstyle depth fields h.2)

end

end

theorem readableItems_iff {digits depth : Nat} {js : List Json} :
    ReadableItems digits depth js ↔ ∀ j ∈ js, Readable digits depth j := by
  induction js with
  | nil => simp [ReadableItems]
  | cons j js ih => rw [ReadableItems, ih, List.forall_mem_cons]

theorem readableFields_iff {digits depth : Nat} {fields : List (String × Json)} :
    ReadableFields digits depth fields ↔ ∀ f ∈ fields, Readable digits depth f.2 := by
  induction fields with
  | nil => simp [ReadableFields]
  | cons f fields ih => rw [ReadableFields, ih, List.forall_mem_cons]

mutual

theorem scalar_text {style : Style} (hstyle : Standard style) (j : Json) :
    ∀ c ∈ j.text style, JsonText.Scalar c := by
  match j with
  | null => exact JsonText.scalar_codes "null"
  | bool true => exact JsonText.scalar_codes "true"
  | bool false => exact JsonText.scalar_codes "false"
  | num n => exact JsonText.scalar_codes (toString n)
  | str s => exact JsonText.scalar_quote style.ascii (JsonText.scalar_codes s)
  | arr js =>
      have hcomma := JsonText.scalar_separator (by decide) hstyle.comma
      exact JsonText.scalar_container (by decide) (by decide) hcomma (scalar_textItems hstyle js)
  | obj fields =>
      have hcomma := JsonText.scalar_separator (by decide) hstyle.comma
      exact JsonText.scalar_container (by decide) (by decide) hcomma (scalar_textFields hstyle fields)

theorem scalar_textItems {style : Style} (hstyle : Standard style) (js : List Json) :
    ∀ t ∈ textItems style js, ∀ c ∈ t, JsonText.Scalar c := by
  match js with
  | [] => nofun
  | j :: js => exact List.forall_mem_cons.2 ⟨scalar_text hstyle j, scalar_textItems hstyle js⟩

theorem scalar_textFields {style : Style} (hstyle : Standard style)
    (fields : List (String × Json)) :
    ∀ t ∈ (textFields style fields).map (JsonText.memberText style), ∀ c ∈ t,
      JsonText.Scalar c := by
  match fields with
  | [] => nofun
  | (k, j) :: fields =>
      refine List.forall_mem_cons.2 ⟨fun c hc ↦ ?_, scalar_textFields hstyle fields⟩
      unfold JsonText.memberText at hc
      rcases List.mem_append.1 hc with hc | hc
      · rcases List.mem_append.1 hc with hc | hc
        · exact JsonText.scalar_quote style.ascii (JsonText.scalar_codes k) c hc
        · exact JsonText.scalar_separator (by decide) hstyle.colon c hc
      · exact scalar_text hstyle j c hc

end

/-- What a response with an object says is what is read from it. -/
theorem loads_responseBytes {style : Style} (hstyle : Standard style) {limits : Limits}
    {fields : List (String × Json)} (h : Readable limits.digits limits.depth (obj fields)) :
    JsonText.loads limits ((obj fields).responseBytes style) = .ok (obj fields).toValue := by
  have hscalar := scalar_text hstyle (obj fields)
  have hread := reads_text hstyle limits.depth (obj fields) h
  have hstart : ∃ d tail, (obj fields).text style = 123 :: d :: tail ∧ 0 < d ∧ d < 128 := by
    rcases fields with _ | ⟨⟨k, j⟩, fields⟩
    · exact ⟨125, [], rfl, by decide⟩
    · obtain ⟨tail, htail⟩ := JsonText.intercalate_start style.comma
        (JsonText.memberText style (JsonText.codes k, j.text style))
        ((textFields style fields).map (JsonText.memberText style))
      refine ⟨34, _, congrArg (fun t ↦ 123 :: (t ++ [125])) htail, by decide⟩
  obtain ⟨d, tail, htext, hd⟩ := hstart
  unfold responseBytes
  rw [htext] at hscalar hread ⊢
  exact JsonText.loads_encoded (by decide) hd
    (fun u hu ↦ hscalar u (List.mem_cons_of_mem _ (List.mem_cons_of_mem _ hu))) hread

/-! ## Searching the text -/

/-- `str.lower` on ASCII. -/
def asciiLower (c : Nat) : Nat := if 65 ≤ c ∧ c ≤ 90 then c + 32 else c

def lowered (t : Text) : Text := t.map asciiLower

mutual

/-- Every key and every string of a document. -/
def strings : Json → List String
  | str s => [s]
  | arr js => stringsItems js
  | obj fields => stringsFields fields
  | _ => []

def stringsItems : List Json → List String
  | [] => []
  | j :: js => strings j ++ stringsItems js

def stringsFields : List (String × Json) → List String
  | [] => []
  | (k, j) :: fields => k :: (strings j ++ stringsFields fields)

end

/-- A string as it stands between its quotes. -/
def spelled (style : Style) (s : String) : Text :=
  lowered (JsonText.escaped style.ascii (JsonText.codes s))

/-- A term of lower case letters and low lines, and none that a word of the format holds. -/
structure SearchTerm (term : Text) : Prop where
  nonempty : term ≠ []
  letters : ∀ c ∈ term, 97 ≤ c ∧ c ≤ 122 ∨ c = 95
  words : ∀ w ∈ [JsonText.codes "null", JsonText.codes "true", JsonText.codes "false"],
    ¬ term <:+: w

instance (term : Text) : Decidable (SearchTerm term) :=
  decidable_of_iff (term ≠ [] ∧ (∀ c ∈ term, 97 ≤ c ∧ c ≤ 122 ∨ c = 95) ∧
    ∀ w ∈ [JsonText.codes "null", JsonText.codes "true", JsonText.codes "false"],
      ¬ term <:+: w)
    ⟨fun h ↦ ⟨h.1, h.2.1, h.2.2⟩, fun h ↦ ⟨h.nonempty, h.letters, h.words⟩⟩

open Substring

theorem SearchTerm.mark {term : Text} (h : SearchTerm term) {c : Nat}
    (hc : c < 65 ∨ 90 < c ∧ c < 95 ∨ 122 < c) : asciiLower c = c ∧ c ∉ term := by
  constructor
  · exact if_neg (by omega)
  · intro hmem
    rcases h.letters c hmem with hr | hr <;> omega

theorem SearchTerm.separator {term : Text} (h : SearchTerm term) {mark : Nat} {sep : Text}
    (hmark : mark < 65) (hsep : Separates mark sep) :
    lowered sep ≠ [] ∧ ∀ c ∈ lowered sep, c ∉ term := by
  obtain ⟨blanks, rfl, hblanks⟩ := hsep
  refine ⟨by simp [lowered], fun c hc ↦ ?_⟩
  obtain ⟨b, hb, rfl⟩ := List.mem_map.1 hc
  have hlow : b < 65 := by
    rcases List.mem_cons.1 hb with rfl | hb
    · exact hmark
    · have hblank := of_decide_eq_true (hblanks b hb)
      omega
  obtain ⟨heq, hnot⟩ := h.mark (.inl hlow)
  rwa [heq]

theorem lowered_append (s t : Text) : lowered (s ++ t) = lowered s ++ lowered t := List.map_append

theorem lowered_intercalate (sep : Text) (texts : List Text) :
    lowered (sep.intercalate texts) = (lowered sep).intercalate (texts.map lowered) := by
  induction texts with
  | nil => rfl
  | cons t texts ih =>
      cases texts with
      | nil => simp
      | cons u texts =>
          rw [List.map_cons, List.map_cons, List.intercalate_cons_cons,
            List.intercalate_cons_cons, lowered_append, lowered_append, ih]
          rfl

theorem mem_intText {n : Int} {c : Nat} (h : c ∈ JsonText.intText n) : c < 65 := by
  have hdigit {m d : Nat} (hd : d ∈ JsonText.natText m) : d < 65 := by
    have hrange := of_decide_eq_true (JsonText.digit_natText hd)
    omega
  cases n with
  | ofNat n =>
      rw [Int.ofNat_eq_natCast, JsonText.intText_nonneg] at h
      exact hdigit h
  | negSucc n =>
      rw [JsonText.intText_neg] at h
      rcases List.mem_cons.1 h with rfl | h
      · decide
      · exact hdigit h

section

variable {term : Text} {style : Style}

theorem SearchTerm.splits_quote (h : SearchTerm term) (style : Style) (s : String) :
    Splits term (lowered (JsonText.quote style.ascii (JsonText.codes s))) [spelled style s] := by
  have hmark := h.mark (c := 34) (by decide)
  have htext : lowered (JsonText.quote style.ascii (JsonText.codes s)) =
      34 :: (spelled style s ++ [34]) := by
    unfold JsonText.quote spelled
    rw [lowered, List.map_cons, List.map_append]
    rfl
  rw [htext]
  exact ((splits_self term _).concat_mark h.nonempty hmark.2).cons_mark h.nonempty hmark.2

theorem SearchTerm.splits_container (h : SearchTerm term) (opening closing : Nat)
    (hopen : opening < 65 ∨ 90 < opening ∧ opening < 95 ∨ 122 < opening)
    (hclose : closing < 65 ∨ 90 < closing ∧ closing < 95 ∨ 122 < closing) {sep : Text}
    (hsep : Separates 44 sep) {texts : List Text} {parts : List (List Text)}
    (hparts : List.Forall₂ (Splits term) (texts.map lowered) parts) :
    Splits term (lowered (opening :: (sep.intercalate texts ++ [closing]))) parts.flatten := by
  have ho := h.mark hopen
  have hc := h.mark hclose
  have hs := h.separator (by decide) hsep
  have htext : lowered (opening :: (sep.intercalate texts ++ [closing])) =
      opening :: ((lowered sep).intercalate (texts.map lowered) ++ [closing]) := by
    rw [← lowered_intercalate]
    show asciiLower opening :: lowered (_ ++ [closing]) = _
    rw [lowered_append, ho.1]
    show opening :: (_ ++ [asciiLower closing]) = _
    rw [hc.1]
  rw [htext]
  exact ((Splits.intercalate h.nonempty hs.1 hs.2 hparts).concat_mark h.nonempty hc.2).cons_mark
    h.nonempty ho.2

mutual

/-- A search term occurs in the text of a document only inside its keys and strings. -/
theorem splits_text (h : SearchTerm term) (hstyle : Standard style) (j : Json) :
    Splits term (lowered (j.text style)) (j.strings.map (spelled style)) := by
  match j with
  | null => exact splits_absent (h.words (JsonText.codes "null") (by decide))
  | bool true => exact splits_absent (h.words (JsonText.codes "true") (by decide))
  | bool false => exact splits_absent (h.words (JsonText.codes "false") (by decide))
  | num n =>
      apply splits_marks h.nonempty
      intro c hc
      obtain ⟨b, hb, rfl⟩ := List.mem_map.1 hc
      have hmark := h.mark (.inl (mem_intText hb))
      rw [hmark.1]
      exact hmark.2
  | str s => exact h.splits_quote style s
  | arr js =>
      obtain ⟨parts, hparts, hflat⟩ := splits_textItems h hstyle js
      have htext := h.splits_container 91 93 (by decide) (by decide)
        hstyle.comma hparts
      rw [hflat] at htext
      exact htext
  | obj fields =>
      obtain ⟨parts, hparts, hflat⟩ := splits_textFields h hstyle fields
      have htext := h.splits_container 123 125 (by decide) (by decide)
        hstyle.comma hparts
      rw [hflat] at htext
      exact htext

theorem splits_textItems (h : SearchTerm term) (hstyle : Standard style) (js : List Json) :
    ∃ parts, List.Forall₂ (Splits term) ((textItems style js).map lowered) parts ∧
      parts.flatten = (stringsItems js).map (spelled style) := by
  match js with
  | [] => exact ⟨[], .nil, rfl⟩
  | j :: js =>
      obtain ⟨parts, hparts, hflat⟩ := splits_textItems h hstyle js
      refine ⟨_ :: parts, .cons (splits_text h hstyle j) hparts, ?_⟩
      rw [List.flatten_cons, hflat, ← List.map_append]
      rfl

theorem splits_textFields (h : SearchTerm term) (hstyle : Standard style)
    (fields : List (String × Json)) :
    ∃ parts, List.Forall₂ (Splits term)
        (((textFields style fields).map (JsonText.memberText style)).map lowered) parts ∧
      parts.flatten = (stringsFields fields).map (spelled style) := by
  match fields with
  | [] => exact ⟨[], .nil, rfl⟩
  | (k, j) :: fields =>
      obtain ⟨parts, hparts, hflat⟩ := splits_textFields h hstyle fields
      have hs := h.separator (by decide) hstyle.colon
      have hmember := (h.splits_quote style k).append_sep h.nonempty hs.1 hs.2
        (splits_text h hstyle j)
      rw [← lowered_append, ← lowered_append] at hmember
      refine ⟨_ :: parts, .cons hmember hparts, ?_⟩
      rw [List.flatten_cons, hflat]
      simp [stringsFields]

end

end

end Json

end RetailMedia
