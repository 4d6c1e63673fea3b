import NotebookHost.Http.Target
import NotebookHost.PortRange
import NotebookHost.Proofs.Text.Numeral
import NotebookHost.Proofs.Text.Split

namespace NotebookHost.Http

open Text

namespace PathQuery

structure IsWellFormed (p : PathQuery) : Prop where
  path : ∀ c ∈ p.path, isPathChar c = true
  query : ∀ q, p.query = some q → ∀ c ∈ q, isQueryChar c = true
  rooted : p.path = [] ∨ p.path.head? = some '/'

theorem ne_of_isPathChar {c : Char} (h : isPathChar c = true) : c ≠ '?' ∧ c ≠ '#' := by
  constructor <;> rintro rfl <;> exact absurd h (by decide)

theorem ne_of_isQueryChar {c : Char} (h : isQueryChar c = true) : c ≠ '#' := by
  rintro rfl
  exact absurd h (by decide)

theorem toChars_ofChars? {s : List Char} {p : PathQuery} (h : ofChars? s = some p) :
    p.toChars = upTo '#' s ∧ (∀ c ∈ p.path, isPathChar c = true) ∧
      ∀ q, p.query = some q → ∀ c ∈ q, isQueryChar c = true := by
  unfold ofChars? at h
  dsimp only at h
  split at h
  · split_ifs at h with hpath
    cases h
    exact ⟨rfl, List.all_eq_true.mp hpath, by simp⟩
  · next path query hsplit =>
    obtain ⟨hs, -⟩ := splitOnce_eq_some_iff.mp hsplit
    split_ifs at h with hchars
    rw [Bool.and_eq_true, List.all_eq_true, List.all_eq_true] at hchars
    cases h
    refine ⟨hs.symm, hchars.1, ?_⟩
    rintro q hq
    cases hq
    exact hchars.2

theorem ofChars?_isWellFormed {s : List Char} {p : PathQuery} (h : ofChars? s = some p)
    (hs : ∀ c ∈ s.head?, c = '/' ∨ c = '?' ∨ c = '#') : p.IsWellFormed := by
  obtain ⟨hchars, hpath, hquery⟩ := toChars_ofChars? h
  refine ⟨hpath, hquery, ?_⟩
  cases hp : p.path with
  | nil => exact .inl rfl
  | cons c r =>
    right
    have hc := ne_of_isPathChar (hpath c (by simp [hp]))
    have hhead : s.head? = some c := by
      have hfirst : p.toChars.head? = some c := by
        rw [toChars, hp]
        cases p.query <;> rfl
      rw [hchars, upTo] at hfirst
      cases s with
      | nil => simp at hfirst
      | cons d s =>
        rw [List.takeWhile_cons] at hfirst
        split_ifs at hfirst
        · exact hfirst
        · cases hfirst
    rcases hs c hhead with rfl | rfl | rfl
    · rfl
    · exact absurd rfl hc.1
    · exact absurd rfl hc.2

namespace IsWellFormed

variable {p : PathQuery} (h : p.IsWellFormed)
include h

theorem question_not_mem : '?' ∉ p.path := fun hmem => (ne_of_isPathChar (h.path _ hmem)).1 rfl

theorem hash_not_mem : '#' ∉ p.toChars := by
  intro hmem
  have hpath : '#' ∉ p.path := fun hmem => (ne_of_isPathChar (h.path _ hmem)).2 rfl
  unfold toChars at hmem
  split at hmem
  · exact hpath hmem
  · next q hq =>
    rcases List.mem_append.mp hmem with hmem | hmem
    · exact hpath hmem
    · rcases List.mem_cons.mp hmem with heq | hmem
      · cases heq
      · exact ne_of_isQueryChar (h.query q hq _ hmem) rfl

theorem ofChars?_toChars : ofChars? p.toChars = some p := by
  have hcut : upTo '#' p.toChars = p.toChars := List.takeWhile_eq_self_iff.mpr (bne_of_not_mem h.hash_not_mem)
  have hpath : p.path.all isPathChar = true := List.all_eq_true.mpr h.path
  unfold ofChars?
  rw [hcut]
  obtain ⟨path, query⟩ := p
  cases query with
  | none => simpa [toChars, splitOnce_of_not_mem h.question_not_mem] using hpath
  | some q =>
    have hquery : q.all isQueryChar = true := List.all_eq_true.mpr (h.query q rfl)
    simp [toChars, splitOnce_append h.question_not_mem, hpath, hquery]

theorem head_toChars : ∀ c ∈ p.toChars.head?, c = '/' ∨ c = '?' := by
  rcases h.rooted with hnil | hroot
  · unfold toChars
    rw [hnil]
    cases p.query <;> simp
  · obtain ⟨r, hr⟩ := List.head?_eq_some_iff.mp hroot
    unfold toChars
    rw [hr]
    cases p.query <;> simp

end IsWellFormed

def root : PathQuery := ⟨['/'], none⟩

theorem root_isWellFormed : root.IsWellFormed where
  path := by simp [root, isPathChar]
  query := by simp [root]
  rooted := .inr rfl

def orRoot (p : PathQuery) : PathQuery := if p.toChars.isEmpty then root else p

theorem orRoot_toChars_ne_nil (p : PathQuery) : p.orRoot.toChars ≠ [] := by
  unfold orRoot
  split
  · exact List.cons_ne_nil _ _
  · next h => simpa using h

theorem IsWellFormed.orRoot {p : PathQuery} (h : p.IsWellFormed) : p.orRoot.IsWellFormed := by
  unfold PathQuery.orRoot
  split
  · exact root_isWellFormed
  · exact h

end PathQuery

namespace Target

theorem next?_of_isAuthorityChar {c : Char} (h : isAuthorityChar c = true) (st : AuthorityState) :
    st.next? c = some st := by
  have hne (d : Char) (hd : isAuthorityChar d = false) : c ≠ d := by
    rintro rfl
    rw [h] at hd
    cases hd
  unfold AuthorityState.next?
  rw [if_neg (hne _ (by decide)), if_neg (hne _ (by decide)), if_neg (hne _ (by decide)), if_neg (hne _ (by decide)),
    if_neg (hne _ (by decide)), if_pos h]

theorem foldlM_next? {s : List Char} (h : ∀ c ∈ s, isAuthorityChar c = true) (st : AuthorityState) :
    s.foldlM AuthorityState.next? st = some st := by
  induction s with
  | nil => rfl
  | cons c s ih =>
    rw [List.foldlM_cons, next?_of_isAuthorityChar (h c List.mem_cons_self)]
    exact ih fun d hd => h d (List.mem_cons_of_mem _ hd)

def loopbackHost : String := "127.0.0.1"

def loopback (port : Port) : List Char := loopbackHost.toList ++ ':' :: digitsOf port.toNat

theorem isAuthorityChar_host : ∀ c ∈ loopbackHost.toList, isAuthorityChar c = true :=
  List.all_eq_true.mp (by decide)

theorem isAuthorityChar_digit {n : ℕ} : ∀ c ∈ digitsOf n, isAuthorityChar c = true := by
  intro c hc
  have hdigit : c.isDigit = true := isDigit_of_mem_digitsOf hc
  simp [isAuthorityChar, Char.isAlphanum, hdigit]

theorem of_mem_loopback {port : Port} {c : Char} (h : c ∈ loopback port) : isAuthorityChar c = true ∨ c = ':' := by
  rcases List.mem_append.mp h with h | h
  · exact .inl (isAuthorityChar_host c h)
  · rcases List.mem_cons.mp h with h | h
    · exact .inr h
    · exact .inl (isAuthorityChar_digit c h)

theorem not_mem_loopback {port : Port} {c : Char} (h : isAuthorityChar c = false) (hc : c ≠ ':') :
    c ∉ loopback port := by
  intro hmem
  rcases of_mem_loopback hmem with hchar | heq
  · rw [h] at hchar
    cases hchar
  · exact hc heq

theorem colon_not_mem_digitsOf (n : ℕ) : ':' ∉ digitsOf n :=
  fun h => absurd (isAuthorityChar_digit ':' h) (by decide)

theorem isAuthority_loopback (port : Port) : isAuthority (loopback port) = true := by
  have hlast : (loopback port).getLast? ≠ some '@' :=
    fun h => not_mem_loopback (by decide) (by decide) (List.mem_of_getLast? h)
  have hfold : (loopback port).foldlM AuthorityState.next? {} = some { colons := 1 } := by
    rw [loopback, List.foldlM_append, foldlM_next? isAuthorityChar_host]
    exact foldlM_next? isAuthorityChar_digit { colons := 1 }
  unfold isAuthority
  rw [hfold]
  simpa using hlast

theorem place_loopback (port : Port) : ((loopback port).reverse.takeWhile (· != '@')).reverse = loopback port := by
  have hsign : '@' ∉ (loopback port).reverse := by
    rw [List.mem_reverse]
    exact not_mem_loopback (by decide) (by decide)
  rw [List.takeWhile_eq_self_iff.mpr (bne_of_not_mem hsign), List.reverse_reverse]

theorem hostOf_loopback (port : Port) : hostOf (loopback port) = loopbackHost.toList := by
  have hcolon : ':' ∉ loopbackHost.toList := by decide
  unfold hostOf
  rw [place_loopback]
  exact (span_append (r := ':' :: digitsOf port.toNat) (bne_of_not_mem hcolon) (by simp)).1

theorem portOf?_loopback (port : Port) : portOf? (loopback port) = some port.toNat := by
  have hcolon : (loopback port).contains ':' = true := by simp [loopback]
  have hport : port.toNat ≤ 65535 := Nat.le_of_lt_succ port.toNat_lt
  unfold portOf?
  rw [if_pos hcolon, loopback, afterLast_append (colon_not_mem_digitsOf _), readNat_digitsOf hport]
  rfl

theorem ofAddress?_eq {scheme authority rest : List Char} (hscheme : ∀ c ∈ scheme, isSchemeChar c = true)
    (hlength : scheme.length ≤ maxScheme) (hne : authority ≠ []) (hauthority : isAuthority authority = true)
    (hinside : ∀ c ∈ authority, endsAuthority c = false) (hrest : ∀ c ∈ rest.head?, endsAuthority c = true) :
    ofAddress? (scheme ++ ':' :: '/' :: '/' :: (authority ++ rest)) =
      (PathQuery.ofChars? rest).map (.absolute scheme authority) := by
  have hcolon : isSchemeChar ':' = false := by decide
  obtain ⟨htake, hdrop⟩ :=
    span_append (r := ':' :: '/' :: '/' :: (authority ++ rest)) hscheme (by simpa using hcolon)
  obtain ⟨hfirst, hsecond⟩ := span_append (p := (!endsAuthority ·)) (s := authority) (r := rest)
    (by simpa using hinside) (by simpa using hrest)
  have hcut : cutScheme (scheme ++ ':' :: '/' :: '/' :: (authority ++ rest)) =
      some (some scheme, authority ++ rest) := by
    rw [cutScheme, hdrop, htake]
    exact if_neg (Nat.not_lt.mpr hlength)
  unfold ofAddress?
  rw [hcut]
  simp [hfirst, hsecond, hauthority, hne]

theorem ofChars?_of_scheme {c : Char} (h : isSchemeChar c = true) (s : List Char) :
    ofChars? (c :: s) = ofAddress? (c :: s) := by
  unfold ofChars?
  split
  · next heq => cases heq
  · next heq =>
    cases heq
    exact absurd h (by decide)
  · next heq =>
    cases heq
    exact absurd h (by decide)
  · rfl

theorem ofText?_loopback {address : String} {scheme : List Char} {port : Port} {p : PathQuery} (hp : p.IsWellFormed)
    (haddress : address.toList = scheme ++ ':' :: '/' :: '/' :: (loopback port ++ p.toChars))
    (hscheme : scheme.all isSchemeChar = true) (hne : scheme ≠ []) (hlength : scheme.length ≤ maxScheme) :
    ofText? address = if maxBytes < address.utf8ByteSize then none else some (.absolute scheme (loopback port) p) := by
  have hinside : ∀ c ∈ loopback port, endsAuthority c = false := by
    intro c hc
    rw [Bool.eq_false_iff]
    intro hends
    simp only [endsAuthority, Bool.or_eq_true, beq_iff_eq] at hends
    rcases hends with (rfl | rfl) | rfl <;> exact not_mem_loopback (by decide) (by decide) hc
  have hrest : ∀ c ∈ p.toChars.head?, endsAuthority c = true := by
    intro c hc
    rcases hp.head_toChars c hc with rfl | rfl <;> decide
  rw [List.all_eq_true] at hscheme
  have hread := ofAddress?_eq hscheme hlength (by simp [loopback]) (isAuthority_loopback port) hinside hrest
  rw [hp.ofChars?_toChars, ← haddress] at hread
  have hchars : ofChars? address.toList = ofAddress? address.toList := by
    rw [haddress]
    cases scheme with
    | nil => exact absurd rfl hne
    | cons c scheme => exact ofChars?_of_scheme (hscheme c List.mem_cons_self) _
  rw [ofText?, hchars, hread]
  rfl

theorem ofText?_path {p : PathQuery} (hp : p.IsWellFormed) (hroot : p.path.head? = some '/')
    (hsize : (String.ofList p.toChars).utf8ByteSize ≤ maxBytes) :
    ofText? (String.ofList p.toChars) = some (.path p) := by
  have hread := hp.ofChars?_toChars
  obtain ⟨rest, hrest⟩ : ∃ rest, p.toChars = '/' :: rest := by
    obtain ⟨rest, hrest⟩ := List.head?_eq_some_iff.mp hroot
    unfold PathQuery.toChars
    rw [hrest]
    cases p.query <;> simp
  rw [ofText?, if_neg (Nat.not_lt.mpr hsize), String.toList_ofList]
  rw [hrest] at hread ⊢
  rw [ofChars?, hread]
  rfl

def IsWellFormed : Target → Prop
  | .path p => p.IsWellFormed
  | .absolute _ _ p => p.IsWellFormed
  | _ => True

def pathQuery : Target → PathQuery
  | .star => ⟨['*'], none⟩
  | .host _ => .root
  | .path p => p.orRoot
  | .absolute _ _ p => p.orRoot

theorem toList_pathQuery? (t : Target) : (t.pathQuery?.getD "/").toList = t.pathQuery.toChars := by
  have horSlash (p : PathQuery) : (pathQuery?.orSlash p.toChars).toList = p.orRoot.toChars := by
    unfold pathQuery?.orSlash PathQuery.orRoot
    split
    · decide
    · exact String.toList_ofList
  cases t with
  | star => decide
  | host a => exact (by decide : "/".toList = PathQuery.root.toChars)
  | path p => exact horSlash p
  | absolute s a p => exact horSlash p

theorem IsWellFormed.pathQuery {t : Target} (h : t.IsWellFormed) (hstar : t ≠ .star) : t.pathQuery.IsWellFormed := by
  cases t with
  | star => exact absurd rfl hstar
  | host a => exact PathQuery.root_isWellFormed
  | path p => exact PathQuery.IsWellFormed.orRoot h
  | absolute s a p => exact PathQuery.IsWellFormed.orRoot h

theorem IsWellFormed.isPathChar_pathText {t : Target} (h : t.IsWellFormed) :
    ∀ c ∈ t.pathText.toList, PathQuery.isPathChar c = true := by
  have hpath (p : PathQuery) (hp : p.IsWellFormed) : ∀ c ∈ pathOf p, PathQuery.isPathChar c = true := by
    unfold pathOf
    split
    · simp [PathQuery.isPathChar]
    · exact hp.path
  rw [pathText, String.toList_ofList]
  cases t with
  | star => simp [pathChars, PathQuery.isPathChar]
  | host a => simp [pathChars]
  | path p => exact hpath p h
  | absolute s a p => exact hpath p h

theorem IsWellFormed.isQueryChar_query? {t : Target} (h : t.IsWellFormed) {q : String} (hq : t.query? = some q) :
    ∀ c ∈ q.toList, PathQuery.isQueryChar c = true := by
  have hquery (p : PathQuery) (hp : p.IsWellFormed) (hq : p.query.map String.ofList = some q) :
      ∀ c ∈ q.toList, PathQuery.isQueryChar c = true := by
    obtain ⟨q', hq', rfl⟩ := Option.map_eq_some_iff.mp hq
    rw [String.toList_ofList]
    exact hp.query q' hq'
  cases t with
  | star => cases hq
  | host a => cases hq
  | path p => exact hquery p h hq
  | absolute s a p => exact hquery p h hq

theorem ofText?_isWellFormed {s : String} {t : Target} (h : ofText? s = some t) : t.IsWellFormed := by
  unfold ofText? at h
  split_ifs at h
  unfold ofChars? at h
  split at h
  · cases h
  · cases h
    trivial
  · obtain ⟨p, hp, rfl⟩ := Option.map_eq_some_iff.mp h
    exact PathQuery.ofChars?_isWellFormed hp (by simp)
  · unfold ofAddress? at h
    split at h
    · cases h
    · split_ifs at h
      cases h
      trivial
    · next scheme rest _ =>
      dsimp only at h
      split_ifs at h
      obtain ⟨p, hp, rfl⟩ := Option.map_eq_some_iff.mp h
      refine PathQuery.ofChars?_isWellFormed hp ?_
      intro c hc
      have hends := List.head?_dropWhile_not (!endsAuthority ·) rest
      rw [Option.mem_def.mp hc] at hends
      simp only [Bool.not_eq_false'] at hends
      simpa only [endsAuthority, Bool.or_eq_true, beq_iff_eq, or_assoc] using hends

end Target

end NotebookHost.Http
