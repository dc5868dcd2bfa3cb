import Mathlib.Algebra.Order.Ring.Int
import Microblog.Http.Endpoint
import Microblog.Proofs.Text.Decimal
import Microblog.Proofs.Text.Trim

/-!
# The viewer of a request

For whom a request is made stands in the first of its headers with the name `x-viewer-id`.  The
value has to be readable as text, and between blanks there has to be a number from 1 to `2 ^ 63 - 1`
in decimal, with a plus sign before it or without one, and with any number of zeros before its
digits (`Headers.NamesViewer`).

* An endpoint that asks who the viewer is, if there is one, and an endpoint that has to know both
  read the number by this rule and by no other (`Request.readsViewer`).
* Whatever else stands there names nobody (`Headers.Nameless`).  The one endpoint then goes on
  without a viewer, and the other refuses the request.
* So the number of every viewer can be given as `Decimal.render` writes it, with any blanks around
  it that can be read in a header.

The characters of a value may be taken for its bytes.  What is read as text has one byte to a
character, and a byte beyond ASCII is as unreadable as a character beyond ASCII.
-/

set_option autoImplicit false

namespace Microblog

open Text

namespace Headers

variable {headers : Headers} {name value : String} {n : Int}

/-! ## The first header of a name -/

/-- `value` is the value of the first header with this name. -/
def First (headers : Headers) (name value : String) : Prop :=
  ∃ before called after, headers = before ++ (called, value) :: after ∧
    foldAscii called = name ∧ ∀ h ∈ before, foldAscii h.1 ≠ name

theorem map_foldChar_eq_iff {called : String} :
    called.toList.map foldChar = name.toList ↔ foldAscii called = name := by
  rw [foldAscii, ← String.toList_inj, String.toList_ofList]

theorem get?_eq_some_iff : headers.get? name = some value ↔ headers.First name value := by
  simp only [get?, Option.map_eq_some_iff, List.find?_eq_some_iff_append, beq_iff_eq,
    Bool.not_eq_true', beq_eq_false_iff_ne, ne_eq, map_foldChar_eq_iff]
  constructor
  · rintro ⟨⟨called, _⟩, ⟨hcalled, before, after, rfl, hbefore⟩, rfl⟩
    exact ⟨before, called, after, rfl, hcalled, hbefore⟩
  · rintro ⟨before, called, after, rfl, hcalled, hbefore⟩
    exact ⟨(called, value), ⟨hcalled, before, after, rfl, hbefore⟩, rfl⟩

theorem get?_eq_none_iff : headers.get? name = none ↔ ∀ h ∈ headers, foldAscii h.1 ≠ name := by
  simp only [get?, Option.map_eq_none_iff, List.find?_eq_none, beq_iff_eq, map_foldChar_eq_iff,
    ne_eq]

theorem First.eq {other : String} (h : headers.First name value)
    (hother : headers.First name other) : value = other :=
  Option.some.inj ((get?_eq_some_iff.2 h).symm.trans (get?_eq_some_iff.2 hother))

/-- A character that can be read as text: printable ASCII, or a tab. -/
def Readable (c : Char) : Prop := c = '\t' ∨ (' ' ≤ c ∧ c ≤ '~')

theorem isReadableChar_iff {c : Char} : isReadableChar c = true ↔ Readable c := by
  have hlast : c.toNat < 0x7F ↔ c ≤ '~' := Nat.lt_succ_iff
  have hfirst : 0x20 ≤ c.toNat ↔ ' ' ≤ c := Iff.rfl
  simp only [isReadableChar, Bool.or_eq_true, Bool.and_eq_true, decide_eq_true_eq, hlast, hfirst,
    Readable]

theorem text?_eq_some_iff : headers.text? name = some value ↔
    headers.First name value ∧ ∀ c ∈ value.toList, Readable c := by
  simp only [text?, Option.filter_eq_some_iff, get?_eq_some_iff, List.all_eq_true,
    isReadableChar_iff]

/-! ## What names a viewer -/

/-- A text that spells the viewer `n`. -/
structure SpellsViewer (value : String) (n : Int) : Prop where
  readable : ∀ c ∈ value.toList, Readable c
  /-- Without the blanks around it, it is a plus sign or none, and then digits of `n`. -/
  spelled : ∃ word ds, Trimmed value.toList word ∧ (word = ds ∨ word = '+' :: ds) ∧
    Decimal.Unsigned ds n.toNat
  pos : 1 ≤ n
  le : n ≤ 2 ^ 63 - 1

/-- The headers name the viewer `n`. -/
def NamesViewer (headers : Headers) (n : Int) : Prop :=
  ∃ value, headers.First viewerName value ∧ SpellsViewer value n

/-- What is wrong with headers that name no viewer. -/
inductive Nameless (headers : Headers) : Prop
  | absent (h : ∀ h ∈ headers, foldAscii h.1 ≠ viewerName)
  | unreadable {value : String} (hfirst : headers.First viewerName value) {c : Char}
      (hc : c ∈ value.toList) (h : ¬Readable c)
  /-- Nothing but blanks is there, a minus sign, or some other character that does not belong. -/
  | misspelt {value : String} (hfirst : headers.First viewerName value) {word : List Char}
      (htrim : Trimmed value.toList word) (h : Decimal.Misspelt word)
  | outOfRange {value : String} (hfirst : headers.First viewerName value) {word ds : List Char}
      (htrim : Trimmed value.toList word) (hsign : word = ds ∨ word = '+' :: ds) {n : Nat}
      (hds : Decimal.Unsigned ds n) (h : n = 0 ∨ 2 ^ 63 - 1 < n)

theorem viewer?_eq_some_iff : headers.viewer? = some n ↔ headers.NamesViewer n := by
  have hgreatest : Decimal.greatest = 2 ^ 63 - 1 := by decide
  have hleast : Decimal.least ≤ 0 := by decide
  simp only [viewer?, Option.filter_eq_some_iff, Option.bind_eq_some_iff, text?_eq_some_iff,
    Decimal.parseId_eq_some_iff, trim, String.toList_ofList, decide_eq_true_eq]
  constructor
  · rintro ⟨⟨value, ⟨hfirst, hreadable⟩, hspells, hfits⟩, hpos⟩
    obtain ⟨ds, hsign, hds⟩ := (Decimal.spells_iff_of_pos hpos).1 hspells
    exact ⟨value, hfirst, hreadable, ⟨_, ds, trimmed_trimChars _, hsign, hds⟩, hpos,
      hgreatest ▸ hfits.2⟩
  · rintro ⟨value, hfirst, hreadable, ⟨word, ds, htrim, hsign, hds⟩, hpos, hle⟩
    have hspells : Decimal.Spells (trimChars value.toList) n := by
      rw [htrim.trimChars_eq]
      exact (Decimal.spells_iff_of_pos hpos).2 ⟨ds, hsign, hds⟩
    exact ⟨⟨value, ⟨hfirst, hreadable⟩, hspells, by omega, hgreatest ▸ hle⟩, hpos⟩

theorem Nameless.not_namesViewer (h : headers.Nameless) : ¬headers.NamesViewer n := by
  rintro ⟨value, hfirst, hreadable, ⟨word, ds, htrim, hsign, hds⟩, hpos, hle⟩
  cases h with
  | absent h =>
    have hnone := get?_eq_none_iff.2 h
    rw [get?_eq_some_iff.2 hfirst] at hnone
    cases hnone
  | unreadable hfirst' hc h =>
    obtain rfl := hfirst.eq hfirst'
    exact h (hreadable _ hc)
  | misspelt hfirst' htrim' h =>
    obtain rfl := hfirst.eq hfirst'
    obtain rfl := htrim.eq htrim'
    exact h.not_unsigned hsign hds
  | outOfRange hfirst' htrim' hsign' hds' h =>
    obtain rfl := hfirst.eq hfirst'
    obtain rfl := htrim.eq htrim'
    have hvalue := hds.eq hds' hsign hsign'
    omega

theorem nameless_or_namesViewer (headers : Headers) :
    headers.Nameless ∨ ∃ n, headers.NamesViewer n := by
  cases hget : headers.get? viewerName with
  | none => exact .inl (.absent (get?_eq_none_iff.1 hget))
  | some value =>
    have hfirst := get?_eq_some_iff.1 hget
    by_cases hreadable : ∀ c ∈ value.toList, Readable c
    · rcases Decimal.misspelt_or_unsigned (trimChars value.toList) with h | ⟨ds, n, hsign, hds⟩
      · exact .inl (.misspelt hfirst (trimmed_trimChars _) h)
      · by_cases hrange : n = 0 ∨ 2 ^ 63 - 1 < n
        · exact .inl (.outOfRange hfirst (trimmed_trimChars _) hsign hds hrange)
        · exact .inr ⟨n, value, hfirst, hreadable, ⟨_, ds, trimmed_trimChars _, hsign, hds⟩,
            by omega, by omega⟩
    · obtain ⟨c, hc, hunreadable⟩ : ∃ c ∈ value.toList, ¬Readable c := by simpa using hreadable
      exact .inl (.unreadable hfirst hc hunreadable)

/-- Headers name no viewer for one of the listed reasons, and for no other. -/
theorem nameless_iff : headers.Nameless ↔ ¬∃ n, headers.NamesViewer n :=
  ⟨fun h ⟨_, hn⟩ ↦ h.not_namesViewer hn, (nameless_or_namesViewer headers).resolve_right⟩

theorem viewer?_eq_none_iff : headers.viewer? = none ↔ headers.Nameless := by
  simp only [Option.eq_none_iff_forall_ne_some, ne_eq, viewer?_eq_some_iff, nameless_iff,
    not_exists]

/-! ## A number with blanks around it -/

theorem readable_of_isDigit {c : Char} (h : c.isDigit = true) : Readable c := by
  obtain ⟨hzero, hnine⟩ := Char.isDigit_iff_toNat.1 h
  exact .inr ⟨Nat.le_trans (by decide) hzero, Nat.le_trans hnine (by decide)⟩

theorem isBlank_of_isDigit {c : Char} (h : c.isDigit = true) : isBlank c = false := by
  obtain ⟨hzero, hnine⟩ := Char.isDigit_iff_toNat.1 h
  rw [show '0'.toNat = 48 from rfl] at hzero
  rw [show '9'.toNat = 57 from rfl] at hnine
  simp only [isBlank, Bool.or_eq_false_iff, Bool.and_eq_false_iff, decide_eq_false_iff_not,
    beq_eq_false_iff_ne]
  omega

/-- A space and a tab are the blanks that can be read. -/
theorem readable_and_isBlank_iff {c : Char} :
    Readable c ∧ isBlank c = true ↔ c = ' ' ∨ c = '\t' := by
  constructor
  · rintro ⟨htab | ⟨hspace, htilde⟩, hblank⟩
    · exact .inr htab
    · -- from the space to the tilde, nothing else is blank
      have hspace : 32 ≤ c.toNat := hspace
      have htilde : c.toNat ≤ 126 := htilde
      simp only [isBlank, Bool.or_eq_true, Bool.and_eq_true, decide_eq_true_eq, beq_iff_eq]
        at hblank
      exact .inl (Char.toNat_inj.1 (show c.toNat = 32 by omega))
  · rintro (rfl | rfl)
    · exact ⟨.inr (by decide), by decide⟩
    · exact ⟨.inl rfl, by decide⟩

theorem First.namesViewer_render {before after : String} (hpos : 1 ≤ n) (hle : n ≤ 2 ^ 63 - 1)
    (hblanks : ∀ c ∈ before.toList ++ after.toList, Readable c ∧ isBlank c = true)
    (h : headers.First viewerName (before ++ Decimal.render n ++ after)) :
    headers.NamesViewer n := by
  obtain ⟨n, rfl⟩ := Int.eq_ofNat_of_zero_le (Int.le_trans (by decide) hpos)
  have hvalue : (before ++ Decimal.render n ++ after).toList =
      before.toList ++ Decimal.digits n ++ after.toList := by
    simp only [String.toList_append, Decimal.render, Decimal.renderChars, String.toList_ofList]
  have hdigit : ∀ c ∈ Decimal.digits n, c.isDigit = true := fun _ ↦ Decimal.isDigit_of_mem_digits
  refine ⟨_, h, fun c hc ↦ ?_, ⟨_, _, ⟨⟨_, _, hvalue, fun c hc ↦ (hblanks c hc).2⟩, ?_, ?_⟩,
    .inl rfl, Decimal.unsigned_digits n⟩, hpos, hle⟩
  · rw [hvalue, List.mem_append, List.mem_append] at hc
    rcases hc with (hc | hc) | hc
    · exact (hblanks c (List.mem_append_left _ hc)).1
    · exact readable_of_isDigit (hdigit c hc)
    · exact (hblanks c (List.mem_append_right _ hc)).1
  · exact fun c hc ↦ isBlank_of_isDigit (hdigit c (List.mem_of_mem_head? hc))
  · exact fun c hc ↦ isBlank_of_isDigit (hdigit c (List.mem_of_mem_getLast? hc))

end Headers

/-! ## The two ways to ask -/

/-- An endpoint that has to know the viewer either knows who it is or refuses the request, and
leaves the application as it is. -/
theorem Endpoint.viewer_run (r : Request) (s : Social) :
    (Endpoint.viewer r).run s = (match r.headers.viewer? with
      | some n => .ok n
      | none => .error (.ofReport ⟨.unauthorized, "authentication required"⟩), s) := by
  rw [Endpoint.viewer]
  cases r.headers.viewer? <;> rfl

namespace Request

/-- How a request is read for who its viewer is. -/
structure ReadsViewer (r : Request) : Prop where
  /-- Where there may be a viewer, it is the one that the headers name. -/
  optional : ∀ n, r.headers.viewer? = some n ↔ r.headers.NamesViewer n
  /-- Where there has to be one, too. -/
  required : ∀ n s s', (Endpoint.viewer r).run s = (.ok n, s') ↔ r.headers.NamesViewer n ∧ s' = s
  /-- No viewer is named for one of the listed reasons, and for no other. -/
  nameless : r.headers.Nameless ↔ ¬∃ n, r.headers.NamesViewer n
  /-- Where there may be a viewer, there is none then. -/
  anonymous : r.headers.Nameless → r.headers.viewer? = none
  /-- Where there has to be one, the request is refused then. -/
  refused : r.headers.Nameless → ∀ s, (Endpoint.viewer r).run s =
    (.error (.ofReport ⟨.unauthorized, "authentication required"⟩), s)
  /-- A number in decimal, with blanks around it, is read as that number. -/
  rendered : ∀ (n : Int) (before after : String), 1 ≤ n → n ≤ 2 ^ 63 - 1 →
    (∀ c ∈ before.toList ++ after.toList, c = ' ' ∨ c = '\t') →
    r.headers.First Headers.viewerName (before ++ Decimal.render n ++ after) →
    r.headers.viewer? = some n ∧ ∀ s, (Endpoint.viewer r).run s = (.ok n, s)

/-- **The viewer of a request is read by one grammar**, whatever headers it has. -/
theorem readsViewer (r : Request) : r.ReadsViewer where
  optional n := Headers.viewer?_eq_some_iff
  required n s s' := by
    rw [Endpoint.viewer_run, ← Headers.viewer?_eq_some_iff]
    cases r.headers.viewer? with
    | none => exact ⟨fun h ↦ absurd (Prod.mk.inj h).1 nofun, fun h ↦ absurd h.1 nofun⟩
    | some m =>
      refine ⟨fun h ↦ ?_, fun ⟨h, hs⟩ ↦ ?_⟩
      · obtain ⟨hm, hs⟩ := Prod.mk.inj h
        exact ⟨congrArg some (Except.ok.inj hm), hs.symm⟩
      · rw [Option.some.inj h, hs]
  nameless := Headers.nameless_iff
  anonymous := Headers.viewer?_eq_none_iff.2
  refused h s := by rw [Endpoint.viewer_run, Headers.viewer?_eq_none_iff.2 h]
  rendered n before after hpos hle hblanks hfirst := by
    have hread := Headers.viewer?_eq_some_iff.2 (hfirst.namesViewer_render hpos hle
      fun c hc ↦ Headers.readable_and_isBlank_iff.2 (hblanks c hc))
    exact ⟨hread, fun s ↦ by rw [Endpoint.viewer_run, hread]⟩

-- the first header counts, however its name is written and whatever the others say
example : Headers.viewer? [("X-Viewer-ID", "\t+0007 "), ("x-viewer-id", "8")] = some 7 := by decide

example : Headers.viewer? [("X-Viewer-ID", "-0"), ("x-viewer-id", "8")] = none := by decide

-- the greatest viewer, and the number after it
example : ["9223372036854775807", "9223372036854775808"].map (fun s ↦
    Headers.viewer? [("x-viewer-id", s)]) = [some 9223372036854775807, none] := by decide +kernel

end Request

end Microblog
