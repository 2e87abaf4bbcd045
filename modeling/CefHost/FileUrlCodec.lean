import CefHost.FileUrl
import CefHost.Library.Escaping
import Mathlib.Tactic.SplitIfs

/-!
# Reading file URLs back

What `MakeFileUrlFromPath` keeps of a path. The escaping of `EncodeFileUrlPath` can be undone; the
form of the path, which the function tells from its first units, cannot always be read off the URL:
`x`, `/x` and `///x` have one.

## Main definitions

* `fileEscaping` — `EncodeFileUrlPath` as an escaping
* `decodePercent` — every `%XX` becomes the unit `XX`
* `fileUrlBody` — what stands behind `file:`, before it is escaped
* `spellings` — the paths that share the URL of a drive path or a relative path

## Main results

* `file_url_round_trip` — the escaped text is clean and reads back, and so does the tail of the URL
* `file_url_eq_iff` — which paths have the same URL
-/

namespace CefHost

/-! ### The escaping -/

/-- The value of an upper-case hexadecimal digit. -/
def hexValue (c : UInt16) : Option UInt16 :=
  if 48 ≤ c ∧ c ≤ 57 then some (c - 48)
  else if 65 ≤ c ∧ c ≤ 70 then some (c - 55)
  else none

/-- The digits `EncodeFileUrlPath` writes for a unit, if it escapes it. -/
def escapeDigits (c : UInt16) : Option (UInt16 × UInt16) :=
  if c = 32 then some (50, 48)
  else if c = 35 then some (50, 51)
  else if c = 63 then some (51, 70)
  else if c = 37 then some (50, 53)
  else if c < 0x20 then
    some (hexDigit ((c.toUInt8 >>> 4) &&& 15), hexDigit (c.toUInt8 &&& 15))
  else none

def percentValue (hi lo : UInt16) : Option UInt16 := do
  let h ← hexValue hi
  let l ← hexValue lo
  return h * 16 + l

/-- `HexEscapeByte` of a control character is read back: there are 32 of them. -/
theorem percentValue_control {c : UInt16} (hc : c < 0x20) :
    percentValue (hexDigit ((c.toUInt8 >>> 4) &&& 15)) (hexDigit (c.toUInt8 &&& 15)) = some c ∧
      (hexValue (hexDigit ((c.toUInt8 >>> 4) &&& 15))).isSome ∧
      (hexValue (hexDigit (c.toUInt8 &&& 15))).isSome := by
  have hall : ∀ n < 32,
      percentValue (hexDigit (((UInt16.ofNat n).toUInt8 >>> 4) &&& 15))
          (hexDigit ((UInt16.ofNat n).toUInt8 &&& 15)) = some (UInt16.ofNat n) ∧
        (hexValue (hexDigit (((UInt16.ofNat n).toUInt8 >>> 4) &&& 15))).isSome ∧
        (hexValue (hexDigit ((UInt16.ofNat n).toUInt8 &&& 15))).isSome := by
    decide
  have hc' := hall c.toNat (UInt16.lt_iff_toNat_lt.mp hc)
  rwa [UInt16.ofNat_toNat] at hc'

/-- The digits of a unit are two upper-case digits, and give the unit back. -/
theorem escapeDigits_spec {c : UInt16} {d : UInt16 × UInt16} (h : escapeDigits c = some d) :
    percentValue d.1 d.2 = some c ∧ (hexValue d.1).isSome ∧ (hexValue d.2).isSome := by
  rw [escapeDigits] at h
  split_ifs at h with h32 h35 h63 h37 hctl
  · rw [h32, ← Option.some.inj h]; decide
  · rw [h35, ← Option.some.inj h]; decide
  · rw [h63, ← Option.some.inj h]; decide
  · rw [h37, ← Option.some.inj h]; decide
  · rw [← Option.some.inj h]
    exact percentValue_control hctl

/-- A unit that is not escaped is none of those that would spoil a URL. -/
theorem escapeDigits_none {c : UInt16} (h : escapeDigits c = none) :
    c ≠ 32 ∧ c ≠ 35 ∧ c ≠ 63 ∧ c ≠ 37 ∧ ¬ c < 0x20 := by
  rw [escapeDigits] at h
  split_ifs at h with h32 h35 h63 h37 hctl
  exact ⟨h32, h35, h63, h37, hctl⟩

/-- Nor is an upper-case digit. -/
theorem hexValue_isSome {c : UInt16} (h : (hexValue c).isSome) :
    c ≠ 32 ∧ c ≠ 35 ∧ c ≠ 63 ∧ c ≠ 37 ∧ ¬ c < 0x20 := by
  have hrange : (48 ≤ c ∧ c ≤ 57) ∨ (65 ≤ c ∧ c ≤ 70) := by
    rw [hexValue] at h
    split_ifs at h with h1 h2
    · exact Or.inl h1
    · exact Or.inr h2
    · cases h
  simp only [UInt16.le_iff_toNat_le, UInt16.lt_iff_toNat_lt, ne_eq, ← UInt16.toNat_inj] at hrange ⊢
  simp only [UInt16.reduceToNat] at hrange ⊢
  omega

/-- `EncodeFileUrlPath`. -/
def fileEscaping : Escaping UInt16 where
  mark := 37
  value := percentValue
  code := escapeDigits
  value_code _ _ h := (escapeDigits_spec h).1
  mark_escaped := by decide
  digits_ne _ _ h :=
    ⟨(hexValue_isSome (escapeDigits_spec h).2.1).2.2.2.1,
      (hexValue_isSome (escapeDigits_spec h).2.2).2.2.2.1⟩

theorem encodeFileUrlUnit_eq (c : UInt16) : encodeFileUrlUnit c = fileEscaping.encodeUnit c := by
  have hcode : fileEscaping.code c = escapeDigits c := rfl
  rw [encodeFileUrlUnit, Escaping.encodeUnit, hcode, escapeDigits]
  split_ifs <;> rfl

theorem encodeFileUrlPath_append (path rest : U16String) :
    encodeFileUrlPath (path ++ rest) = encodeFileUrlPath path ++ encodeFileUrlPath rest :=
  List.flatMap_append

theorem encodeFileUrlPath_eq (path : U16String) :
    encodeFileUrlPath path = fileEscaping.encode path := by
  rw [encodeFileUrlPath, funext encodeFileUrlUnit_eq]
  rfl

/-- Every `%XX` with two upper-case digits becomes the unit `XX`. -/
def decodePercent (text : U16String) : U16String := fileEscaping.decode text

/-- A text without the units that end a path in a URL, or that may not stand in one. -/
def Clean (text : U16String) : Prop := ∀ c ∈ text, c ≠ 32 ∧ c ≠ 35 ∧ c ≠ 63 ∧ ¬ c < 0x20

/-- Every `%` is followed by two upper-case hexadecimal digits. -/
def PercentsPaired (text : U16String) : Prop :=
  ∀ pre post, text = pre ++ 37 :: post →
    ∃ hi lo rest, post = hi :: lo :: rest ∧ (hexValue hi).isSome ∧ (hexValue lo).isSome

theorem clean_encodeFileUrlPath (path : U16String) : Clean (encodeFileUrlPath path) := by
  intro c hc
  rw [encodeFileUrlPath_eq] at hc
  rcases Escaping.mem_encode hc with rfl | ⟨_, d, hd, rfl | rfl⟩ | hnone
  · decide
  · obtain ⟨h32, h35, h63, -, hctl⟩ := hexValue_isSome (escapeDigits_spec hd).2.1
    exact ⟨h32, h35, h63, hctl⟩
  · obtain ⟨h32, h35, h63, -, hctl⟩ := hexValue_isSome (escapeDigits_spec hd).2.2
    exact ⟨h32, h35, h63, hctl⟩
  · obtain ⟨h32, h35, h63, -, hctl⟩ := escapeDigits_none hnone
    exact ⟨h32, h35, h63, hctl⟩

theorem percentsPaired_encodeFileUrlPath (path : U16String) :
    PercentsPaired (encodeFileUrlPath path) := by
  intro pre post h
  rw [encodeFileUrlPath_eq] at h
  obtain ⟨_, d, rest, hcode, hpost⟩ := Escaping.mark_encode h
  exact ⟨d.1, d.2, rest, hpost, (escapeDigits_spec hcode).2⟩

theorem decodePercent_encodeFileUrlPath (path : U16String) :
    decodePercent (encodeFileUrlPath path) = path := by
  rw [encodeFileUrlPath_eq]
  exact Escaping.decode_encode path

/-! ### The URL of a path -/

/-- A path with slashes that `MakeFileUrlFromPath` returns as it is. -/
def isFileUrl (path : U16String) : Bool := (u16 "file://").isPrefixOf path

/-- What `MakeFileUrlFromPath` puts in front of the escaped path, by the form of the path. -/
def fileUrlPrefix (path : U16String) : U16String :=
  if isUncPath path then u16 "file:"
  else if isDrivePath path then u16 "file:///"
  else if path.head? = some 47 then u16 "file://"
  else u16 "file:///"

theorem fileUrlOfSlashed_eq {path : U16String} (h : isFileUrl path = false) :
    fileUrlOfSlashed path = fileUrlPrefix path ++ encodeFileUrlPath path := by
  rw [isFileUrl] at h
  rw [fileUrlOfSlashed, h, if_neg Bool.false_ne_true, fileUrlPrefix]
  split_ifs <;> rfl

theorem fileUrlPrefix_mem (path : U16String) :
    fileUrlPrefix path ∈ [u16 "file:", u16 "file://", u16 "file:///"] := by
  rw [fileUrlPrefix]
  split_ifs <;> decide

theorem clean_append {text rest : U16String} (h : Clean text) (hrest : Clean rest) :
    Clean (text ++ rest) := fun c hc => (List.mem_append.mp hc).elim (h c) (hrest c)

theorem clean_fileUrlPrefix (path : U16String) : Clean (fileUrlPrefix path) := by
  have hall : ∀ text ∈ [u16 "file:", u16 "file://", u16 "file:///"], Clean text := by
    simp [Clean, u16]
  exact hall _ (fileUrlPrefix_mem path)

/-- **The round trip of paths.** The escaped path has no space, `#`, `?` or control character, and
no `%` but before two upper-case hexadecimal digits; reading the escapes gives the path back. So
the URL of a path that is not a file URL has no query and no fragment, and what stands behind its
`file:` and slashes reads back as the path with its separators normalised. -/
theorem file_url_round_trip (path rawPath : U16String) :
    (Clean (encodeFileUrlPath path) ∧ PercentsPaired (encodeFileUrlPath path) ∧
        decodePercent (encodeFileUrlPath path) = path) ∧
      (isFileUrl (forwardSlashes rawPath) = false →
        ∃ start ∈ [u16 "file:", u16 "file://", u16 "file:///"], ∃ tail,
          makeFileUrlFromPath rawPath = start ++ tail ∧
            decodePercent tail = forwardSlashes rawPath ∧
            63 ∉ makeFileUrlFromPath rawPath ∧ 35 ∉ makeFileUrlFromPath rawPath) := by
  refine ⟨⟨clean_encodeFileUrlPath path, percentsPaired_encodeFileUrlPath path,
    decodePercent_encodeFileUrlPath path⟩, fun hraw => ?_⟩
  have hurl := fileUrlOfSlashed_eq hraw
  have hclean : Clean (makeFileUrlFromPath rawPath) := by
    rw [makeFileUrlFromPath, hurl]
    exact clean_append (clean_fileUrlPrefix _) (clean_encodeFileUrlPath _)
  refine ⟨_, fileUrlPrefix_mem _, _, hurl, decodePercent_encodeFileUrlPath _, ?_, ?_⟩
  · exact fun hmem => (hclean _ hmem).2.2.1 rfl
  · exact fun hmem => (hclean _ hmem).2.1 rfl

/-! ### Which paths share a URL -/

/-- What stands behind `file:`, before it is escaped. -/
def fileUrlBody (path : U16String) : U16String :=
  if isUncPath path then path
  else if isDrivePath path then u16 "///" ++ path
  else if path.head? = some 47 then u16 "//" ++ path
  else u16 "///" ++ path

theorem fileUrlOfSlashed_eq_body {path : U16String} (h : isFileUrl path = false) :
    fileUrlOfSlashed path = u16 "file:" ++ encodeFileUrlPath (fileUrlBody path) := by
  have htwo : u16 "file://" = u16 "file:" ++ encodeFileUrlPath (u16 "//") := by decide
  have hthree : u16 "file:///" = u16 "file:" ++ encodeFileUrlPath (u16 "///") := by decide
  rw [fileUrlOfSlashed_eq h, fileUrlPrefix, fileUrlBody]
  split_ifs
  · rfl
  · rw [hthree, List.append_assoc, encodeFileUrlPath_append]
  · rw [htwo, List.append_assoc, encodeFileUrlPath_append]
  · rw [hthree, List.append_assoc, encodeFileUrlPath_append]

/-- Every path is some slashes and a rest that begins with none. -/
theorem exists_slashes (path : U16String) :
    ∃ n rest, rest.head? ≠ some 47 ∧ path = List.replicate n 47 ++ rest := by
  induction path with
  | nil => exact ⟨0, [], by simp, rfl⟩
  | cons c path ih =>
    by_cases hc : c = 47
    · obtain ⟨n, rest, hrest, rfl⟩ := ih
      exact ⟨n + 1, rest, hrest, by rw [hc]; rfl⟩
    · exact ⟨0, c :: path, by simpa using hc, rfl⟩

/-- The slashes and the rest are determined. -/
theorem slashes_inj {m n : ℕ} {rest rest' : U16String} (h : rest.head? ≠ some 47)
    (h' : rest'.head? ≠ some 47)
    (heq : List.replicate m (47 : UInt16) ++ rest = List.replicate n 47 ++ rest') :
    m = n ∧ rest = rest' := by
  induction m generalizing n with
  | zero =>
    cases n with
    | zero => exact ⟨rfl, heq⟩
    | succ n => exact absurd (by rw [List.replicate_zero, List.nil_append] at heq; rw [heq]; rfl) h
  | succ m ih =>
    cases n with
    | zero =>
      exact absurd (by rw [List.replicate_zero, List.nil_append] at heq; rw [← heq]; rfl) h'
    | succ n =>
      obtain ⟨rfl, hrest⟩ := ih (List.cons.inj heq).2
      exact ⟨rfl, hrest⟩

/-- How many slashes stand behind `file:`, for a path that begins with `n`. -/
def bodySlashes (n : ℕ) : ℕ := if n < 2 then 3 else n

theorem isUncPath_cons_cons (path : U16String) : isUncPath (47 :: 47 :: path) = true := rfl

theorem isUncPath_of_head {c : UInt16} {path : U16String} (h : path.head? ≠ some 47) :
    isUncPath (c :: path) = false := by
  rw [isUncPath.eq_def]
  split
  · next heq =>
    obtain ⟨-, rfl⟩ := List.cons.inj heq
    exact absurd rfl h
  · rfl

theorem isDrivePath_slash (path : U16String) : isDrivePath (47 :: path) = false := by
  rw [isDrivePath.eq_def]
  split
  · next heq =>
    obtain ⟨rfl, -⟩ := List.cons.inj heq
    decide
  · rfl

theorem isUncPath_eq_false {path : U16String} (h : path.head? ≠ some 47) :
    isUncPath path = false := by
  rw [isUncPath.eq_def]
  split
  · exact absurd rfl h
  · rfl

theorem fileUrlBody_slashes (n : ℕ) {rest : U16String} (h : rest.head? ≠ some 47) :
    fileUrlBody (List.replicate n 47 ++ rest) = List.replicate (bodySlashes n) 47 ++ rest := by
  match n with
  | 0 =>
    -- a drive path or a relative path
    rw [List.replicate_zero, List.nil_append, fileUrlBody, isUncPath_eq_false h,
      if_neg Bool.false_ne_true, if_neg h, ite_self]
    rfl
  | 1 =>
    -- a rooted path
    change fileUrlBody (47 :: rest) = _
    rw [fileUrlBody, isUncPath_of_head h, isDrivePath_slash]
    rfl
  | n + 2 =>
    -- a UNC path
    change fileUrlBody (47 :: 47 :: (List.replicate n 47 ++ rest)) = _
    rw [fileUrlBody, isUncPath_cons_cons]
    rfl

/-- The paths that share the URL of a drive path or a relative path. -/
def spellings (rest : U16String) : List U16String := [rest, 47 :: rest, 47 :: 47 :: 47 :: rest]

theorem mem_spellings (n : ℕ) (rest : U16String) (h : n < 2 ∨ n = 3) :
    List.replicate n 47 ++ rest ∈ spellings rest := by
  rcases h with h | rfl
  · match n with
    | 0 => exact List.mem_cons_self
    | 1 => exact List.mem_cons_of_mem _ List.mem_cons_self
  · exact List.mem_cons_of_mem _ (List.mem_cons_of_mem _ List.mem_cons_self)

/-- All spellings have one body. -/
theorem fileUrlBody_of_mem {rest path : U16String} (h : rest.head? ≠ some 47)
    (hmem : path ∈ spellings rest) : fileUrlBody path = 47 :: 47 :: 47 :: rest := by
  simp only [spellings, List.mem_cons, List.not_mem_nil, or_false] at hmem
  rcases hmem with rfl | rfl | rfl
  · exact fileUrlBody_slashes 0 h
  · exact fileUrlBody_slashes 1 h
  · exact fileUrlBody_slashes 3 h

/-- **When two paths have one body**: they are equal, or both are spellings of one drive path or
relative path. -/
theorem fileUrlBody_eq_iff (path path' : U16String) :
    fileUrlBody path = fileUrlBody path' ↔
      path = path' ∨ ∃ rest, rest.head? ≠ some 47 ∧ path ∈ spellings rest ∧
        path' ∈ spellings rest := by
  constructor
  · intro heq
    obtain ⟨m, rest, hrest, rfl⟩ := exists_slashes path
    obtain ⟨n, rest', hrest', rfl⟩ := exists_slashes path'
    rw [fileUrlBody_slashes m hrest, fileUrlBody_slashes n hrest'] at heq
    obtain ⟨hslashes, rfl⟩ := slashes_inj hrest hrest' heq
    by_cases hmn : m = n
    · exact Or.inl (by rw [hmn])
    · have hfew : (m < 2 ∨ m = 3) ∧ (n < 2 ∨ n = 3) := by
        simp only [bodySlashes] at hslashes
        split_ifs at hslashes <;> omega
      exact Or.inr ⟨rest, hrest, mem_spellings m rest hfew.1, mem_spellings n rest hfew.2⟩
  · rintro (rfl | ⟨rest, hrest, hp, hp'⟩)
    · rfl
    · rw [fileUrlBody_of_mem hrest hp, fileUrlBody_of_mem hrest hp']

/-- **Which paths share a URL.** Of two paths that are not file URLs, the URLs are equal if and only
if the paths are, with their separators normalised, or both are among `r`, `/r` and `///r` for one
`r` that begins with no slash. -/
theorem file_url_eq_iff (p q : U16String) (hp : isFileUrl (forwardSlashes p) = false)
    (hq : isFileUrl (forwardSlashes q) = false) :
    makeFileUrlFromPath p = makeFileUrlFromPath q ↔
      forwardSlashes p = forwardSlashes q ∨
        ∃ rest, rest.head? ≠ some 47 ∧ forwardSlashes p ∈ spellings rest ∧
          forwardSlashes q ∈ spellings rest := by
  rw [← fileUrlBody_eq_iff, makeFileUrlFromPath, makeFileUrlFromPath, fileUrlOfSlashed_eq_body hp,
    fileUrlOfSlashed_eq_body hq, List.append_cancel_left_eq]
  constructor
  · intro h
    rw [encodeFileUrlPath_eq, encodeFileUrlPath_eq] at h
    exact Escaping.encode_injective h
  · intro h
    rw [h]

theorem file_url_eq_iff_drive :
    isFileUrl (forwardSlashes (u16 "C:\\a b.html")) = false ∧
      isFileUrl (forwardSlashes (u16 "/C:/a b.html")) = false ∧
      (makeFileUrlFromPath (u16 "C:\\a b.html") = makeFileUrlFromPath (u16 "/C:/a b.html") ↔
        forwardSlashes (u16 "C:\\a b.html") = forwardSlashes (u16 "/C:/a b.html") ∨
          ∃ rest, rest.head? ≠ some 47 ∧
            forwardSlashes (u16 "C:\\a b.html") ∈ spellings rest ∧
            forwardSlashes (u16 "/C:/a b.html") ∈ spellings rest) :=
  ⟨by decide, by decide, file_url_eq_iff _ _ (by decide) (by decide)⟩

/-- **One URL for two paths**: a relative path and a rooted one. -/
theorem file_url_collision :
    isFileUrl (forwardSlashes (u16 "page.html")) = false ∧
      isFileUrl (forwardSlashes (u16 "/page.html")) = false ∧
      makeFileUrlFromPath (u16 "page.html") = makeFileUrlFromPath (u16 "/page.html") ∧
      forwardSlashes (u16 "page.html") ≠ forwardSlashes (u16 "/page.html") := by
  decide

end CefHost
