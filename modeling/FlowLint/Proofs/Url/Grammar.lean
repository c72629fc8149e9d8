import FlowLint.Url.Parts
import Mathlib.Data.List.TakeWhile
import Mathlib.Data.Option.Basic

/-!
# The grammar of URLs

What a URL has for a scheme and for a network location, said of its text, and which locations are
let through. The functions that split a URL find exactly these parts, and a location has a fault
exactly when it is not let through.

* **`splitScheme_of_hasScheme`**, **`splitScheme_of_none`**: the scheme before the first colon.
* **`locationOf_of_hasLocation`**, **`locationOf_of_none`**: the network location after two slashes.
* **`hostFault?_eq_none_iff`**: in brackets stands an address of version 6 or of a future version.
* **`locationFault?_eq_none_iff`**: which locations are let through.
* **`split_cases`**: a URL is split into its parts unless it has a bad location.
-/

namespace FlowLint.Url

open Text

/-! ## Scheme and location -/

/-- The text is a scheme, a colon and the rest. -/
structure HasScheme (w scheme rest : List Char) : Prop where
  text : w = scheme ++ ':' :: rest
  letter : ∃ c more, scheme = c :: more ∧ c.isAlpha = true
  chars : ∀ c ∈ scheme, c.isAlphanum = true ∨ c = '+' ∨ c = '-' ∨ c = '.'

/-- The text starts with two slashes, and behind them stands the location up to a slash, a question
mark, a number sign or the end. -/
structure HasLocation (cs location : List Char) : Prop where
  text : ∃ behind, cs = '/' :: '/' :: (location ++ behind)
    ∧ ∀ c, behind.head? = some c → c = '/' ∨ c = '?' ∨ c = '#'
  chars : ∀ c ∈ location, c ≠ '/' ∧ c ≠ '?' ∧ c ≠ '#'

theorem isSchemeChar_iff {c : Char} :
    isSchemeChar c = true ↔ c.isAlphanum = true ∨ c = '+' ∨ c = '-' ∨ c = '.' := by
  simp only [isSchemeChar, Bool.or_eq_true, beq_iff_eq, or_assoc]

theorem isScheme_iff {scheme : List Char} :
    isScheme scheme = true ↔ (∃ c more, scheme = c :: more ∧ c.isAlpha = true)
      ∧ ∀ c ∈ scheme, c.isAlphanum = true ∨ c = '+' ∨ c = '-' ∨ c = '.' := by
  simp only [← isSchemeChar_iff]
  cases scheme with
  | nil => simp [isScheme]
  | cons c more => simp [isScheme]

theorem endsLocation_iff {c : Char} : endsLocation c = true ↔ c = '/' ∨ c = '?' ∨ c = '#' := by
  simp only [endsLocation, Bool.or_eq_true, beq_iff_eq, or_assoc]

theorem HasScheme.not_mem {w scheme rest : List Char} (h : HasScheme w scheme rest) :
    ':' ∉ scheme :=
  fun hmem => absurd (h.chars _ hmem) (by decide)

/-- A scheme is found in small letters, and the rest behind its colon. -/
theorem splitScheme_of_hasScheme {w scheme rest : List Char} (h : HasScheme w scheme rest) :
    splitScheme w = (scheme.map Char.toLower, rest) := by
  rw [splitScheme, h.text, splitFirst_append h.not_mem]
  exact if_pos (isScheme_iff.2 ⟨h.letter, h.chars⟩)

theorem splitScheme_of_none {w : List Char} (h : ¬ ∃ scheme rest, HasScheme w scheme rest) :
    splitScheme w = ([], w) := by
  unfold splitScheme
  split
  · next before after hsplit =>
    refine if_neg fun hscheme => h ?_
    obtain ⟨hletter, hchars⟩ := isScheme_iff.1 hscheme
    exact ⟨before, after, eq_append_of_splitFirst hsplit, hletter, hchars⟩
  · rfl

theorem HasScheme.unique {w scheme scheme' rest rest' : List Char} (h : HasScheme w scheme rest)
    (h' : HasScheme w scheme' rest') : scheme = scheme' ∧ rest = rest' := by
  have hsplit := splitFirst_append h.not_mem rest
  rw [← h.text, h'.text, splitFirst_append h'.not_mem] at hsplit
  cases hsplit
  exact ⟨rfl, rfl⟩

/-- A text with two slashes in front has no scheme. -/
theorem HasScheme.not_hasLocation {w scheme rest location : List Char}
    (h : HasScheme w scheme rest) : ¬ HasLocation w location := by
  rintro ⟨⟨behind, hbehind, -⟩, -⟩
  obtain ⟨c, more, rfl, hletter⟩ := h.letter
  rw [h.text] at hbehind
  obtain ⟨rfl, -⟩ := List.cons.inj hbehind
  exact absurd hletter (by decide)

theorem locationOf_of_hasLocation {cs location : List Char} (h : HasLocation cs location) :
    locationOf cs = location := by
  obtain ⟨behind, rfl, hends⟩ := h.text
  have hinside : ∀ c ∈ location, (!endsLocation c) = true := by
    intro c hc
    rw [Bool.not_eq_true', ← Bool.not_eq_true, endsLocation_iff, not_or, not_or]
    exact h.chars c hc
  have hstop : behind.takeWhile (!endsLocation ·) = [] := by
    cases behind with
    | nil => rfl
    | cons c more => simp [endsLocation_iff.2 (hends c rfl)]
  rw [locationOf, List.takeWhile_append_of_pos hinside, hstop, List.append_nil]

/-- After two slashes there is a location, which can be empty. -/
theorem hasLocation_slashes (rest : List Char) :
    HasLocation ('/' :: '/' :: rest) (locationOf ('/' :: '/' :: rest)) where
  text := by
    refine ⟨rest.dropWhile (!endsLocation ·), ?_, fun c hc => ?_⟩
    · rw [locationOf, List.takeWhile_append_dropWhile]
    · have hstop := List.head?_dropWhile_not (!endsLocation ·) rest
      rw [hc] at hstop
      exact endsLocation_iff.1 (by simpa using hstop)
  chars c hc := by
    have hinside := List.mem_takeWhile_imp hc
    rw [Bool.not_eq_true', ← Bool.not_eq_true, endsLocation_iff, not_or, not_or] at hinside
    exact hinside

theorem locationOf_of_none {cs : List Char} (h : ¬ ∃ location, HasLocation cs location) :
    locationOf cs = [] := by
  unfold locationOf
  split
  · next rest => exact absurd ⟨_, hasLocation_slashes rest⟩ h
  · rfl

/-! ## Addresses

The check of a host looks at its first letter, then for an address of version 4, then for one of
version 6. The three kinds have no text in common, so the order does not matter. -/

theorem isSome_digitOf?_of_numeralFrom? {base high n : Nat} {cs : List Char}
    (h : numeralFrom? base high cs = some n) : ∀ c ∈ cs, (digitOf? base c).isSome = true := by
  induction cs generalizing high with
  | nil => exact List.forall_mem_nil _
  | cons c rest ih =>
    rw [numeralFrom?] at h
    split at h
    · next d hd => exact List.forall_mem_cons.2 ⟨by rw [hd]; rfl, ih h⟩
    · exact nomatch h

theorem isSome_digitOf?_of_numeral? {base n : Nat} {cs : List Char}
    (h : numeral? base cs = some n) : ∀ c ∈ cs, (digitOf? base c).isSome = true := by
  cases cs with
  | nil => exact List.forall_mem_nil _
  | cons c rest => exact isSome_digitOf?_of_numeralFrom? h

theorem isSome_digitOf?_of_isGroup {cs : List Char} (h : isGroup cs = true) :
    ∀ c ∈ cs, (digitOf? 16 c).isSome = true := by
  rw [isGroup, Bool.and_eq_true, Option.isSome_iff_exists] at h
  obtain ⟨n, hn⟩ := h.2
  exact isSome_digitOf?_of_numeral? hn

/-- An address of version 4 holds digits and points only. -/
theorem isVersion4_chars {cs : List Char} (h : isVersion4 cs = true) :
    ∀ c ∈ cs, c = '.' ∨ (digitOf? 10 c).isSome = true := by
  have hoctets : ∀ part ∈ splitAll '.' cs, ∀ c ∈ part, (digitOf? 10 c).isSome = true := by
    intro part hpart
    rw [isVersion4, Bool.and_eq_true, List.all_eq_true] at h
    have hoctet := h.2 part hpart
    unfold isOctet at hoctet
    split at hoctet
    · next n hn => exact isSome_digitOf?_of_numeral? hn
    · exact nomatch hoctet
  obtain ⟨first, more, hparts⟩ := List.exists_cons_of_ne_nil (splitAll_ne_nil '.' cs)
  rw [hparts] at hoctets
  obtain ⟨hfirst, hmore⟩ := List.forall_mem_cons.1 hoctets
  rw [← append_of_splitAll hparts]
  refine List.forall_mem_append.2 ⟨fun c hc => .inr (hfirst c hc), fun c hc => ?_⟩
  obtain ⟨part, hpart, hc⟩ := List.mem_flatMap.1 hc
  rcases List.mem_cons.1 hc with rfl | hc
  · exact .inl rfl
  · exact .inr (hmore part hpart c hc)

/-- No address is of both versions: one of version 6 has colons. -/
theorem isVersion6_of_isVersion4 {cs : List Char} (h : isVersion4 cs = true) :
    isVersion6 cs = false := by
  have hchars := isVersion4_chars h
  -- without a percent sign there is no zone, and without a colon there is one group only
  have hpercent : '%' ∉ cs := fun hmem => absurd (hchars _ hmem) (by decide)
  have hcolon : ':' ∉ cs := fun hmem => absurd (hchars _ hmem) (by decide)
  have hgroups : groups? cs = none := by
    rw [groups?, splitAll_of_not_mem hcolon]
    rfl
  rw [isVersion6, splitFirst_of_not_mem hpercent]
  show isUnzonedVersion6 cs = false
  rw [isUnzonedVersion6, hgroups]

/-- What does not begin with a colon has its first character in its first group. -/
theorem groups?_cons {c : Char} {cs : List Char} {groups : List (List Char)} (hc : c ≠ ':')
    (h : groups? (c :: cs) = some groups) : ∃ group more, groups = (c :: group) :: more := by
  obtain ⟨part, parts, hparts⟩ := List.exists_cons_of_ne_nil (splitAll_ne_nil ':' cs)
  have hsplit : splitAll ':' (c :: cs) = (c :: part) :: parts := by
    rw [splitAll, hparts, if_neg (by simpa using hc)]
  simp only [groups?, hsplit] at h
  split at h
  · cases h
  · next hlong =>
    -- the last of at least three parts is not the first
    obtain ⟨next, more, rfl⟩ : ∃ next more, parts = next :: more :=
      List.exists_cons_of_ne_nil fun hnil => hlong (by simp [hnil])
    split at h
    · split at h
      · split at h
        · cases h
          exact ⟨part, _, rfl⟩
        · cases h
      · cases h
        exact ⟨part, _, rfl⟩
    · cases h

/-- An address of version 6 begins with a colon or a hexadecimal digit. -/
theorem isUnzonedVersion6_cons {c : Char} {cs : List Char}
    (h : isUnzonedVersion6 (c :: cs) = true) : c = ':' ∨ (digitOf? 16 c).isSome = true := by
  refine or_iff_not_imp_left.2 fun hc => ?_
  rw [isUnzonedVersion6] at h
  cases hgroups : groups? (c :: cs) with
  | none =>
    rw [hgroups] at h
    exact nomatch h
  | some groups =>
    obtain ⟨group, more, rfl⟩ := groups?_cons hc hgroups
    have hgroup : isGroup (c :: group) = true := by
      rw [hgroups] at h
      dsimp only at h
      split at h
      · rw [List.all_cons, Bool.and_eq_true, Bool.and_eq_true] at h
        exact h.2.1
      · -- a run is left out, but the first group still stands in front of it and is not empty
        simp only [List.take_succ_cons, List.head?_cons, Option.map_some, Option.getD_some,
          List.isEmpty_cons, isSide, Bool.and_eq_true, List.all_cons, Bool.false_eq_true,
          if_false] at h
        exact h.1.1.2.1
    exact isSome_digitOf?_of_isGroup hgroup c List.mem_cons_self

theorem isVersion6_ne_v (cs : List Char) : isVersion6 ('v' :: cs) = false := by
  refine Bool.eq_false_iff.2 fun h => ?_
  have hfirst : ∃ more, (splitFirst '%' ('v' :: cs)).1 = 'v' :: more := ⟨_, rfl⟩
  obtain ⟨more, hmore⟩ := hfirst
  have hunzoned : isUnzonedVersion6 (splitFirst '%' ('v' :: cs)).1 = true := by
    unfold isVersion6 at h
    split at h
    · next address hsplit => rwa [hsplit]
    · next address zone hsplit =>
      rw [Bool.and_eq_true] at h
      rw [hsplit]
      exact h.2
  rw [hmore] at hunzoned
  exact absurd (isUnzonedVersion6_cons hunzoned) (by decide)

theorem isFutureVersion_cons {c : Char} {cs : List Char} (h : isFutureVersion (c :: cs) = true) :
    c = 'v' := by
  unfold isFutureVersion at h
  split at h
  · next heq => exact (List.cons.inj heq).1
  · exact nomatch h

/-- **In brackets stands an address** of a future version or of version 6. -/
theorem hostFault?_eq_none_iff {host : List Char} :
    hostFault? host = none ↔ isFutureVersion host = true ∨ isVersion6 host = true := by
  unfold hostFault?
  cases host with
  | nil => decide
  | cons c cs =>
    by_cases hc : c = 'v'
    · subst hc
      simp [isVersion6_ne_v]
    · have hfuture : isFutureVersion (c :: cs) = false :=
        Bool.eq_false_iff.2 fun h => hc (isFutureVersion_cons h)
      rw [if_neg (by simpa using hc), hfuture]
      by_cases hfour : isVersion4 (c :: cs) = true
      · simp [hfour, isVersion6_of_isVersion4 hfour]
      · simp [hfour]

/-! ## Brackets -/

/-- What stands behind the last at sign of a location, or all of it. -/
def HasTarget (location target : List Char) : Prop :=
  '@' ∉ target ∧ (location = target ∨ ∃ user, location = user ++ '@' :: target)

/-- The host that must be an address: what stands in the brackets, behind which comes a port at
most. A bracket that is not closed counts, and so does the host of a text without brackets. -/
inductive HasHost (target host : List Char) : Prop
  | closed (port : List Char) (text : target = '[' :: (host ++ ']' :: port)) (inside : ']' ∉ host)
      (behind : ∀ c, port.head? = some c → c = ':')
  | opened (text : target = '[' :: host) (inside : ']' ∉ host)
  | bare (port : List Char) (text : target = host ++ port) (plain : '[' ∉ target)
      (inside : ':' ∉ host) (behind : ∀ c, port.head? = some c → c = ':')

/-- The location is let through: no bracket stands alone, a host in brackets is an address, and no
character looks like a delimiter. -/
structure IsLocation (location : List Char) : Prop where
  paired : '[' ∈ location ↔ ']' ∈ location
  address : '[' ∈ location → ∃ target host, HasTarget location target ∧ HasHost target host
    ∧ (isFutureVersion host = true ∨ isVersion6 host = true)
  plain : ∀ c ∈ location, isDelimiterLookalike c = false

theorem hasTarget_iff {location target : List Char} :
    HasTarget location target ↔ afterLast '@' location = target := by
  constructor
  · rintro ⟨hnone, htext⟩
    have hpositive : ∀ c ∈ target.reverse, (c != '@') = true := fun c hc =>
      bne_iff_ne.2 fun heq => hnone (heq ▸ List.mem_reverse.1 hc)
    rcases htext with rfl | ⟨user, rfl⟩
    · rw [afterLast, List.takeWhile_eq_self_iff.2 hpositive, List.reverse_reverse]
    · rw [afterLast, List.reverse_append, List.reverse_cons, List.append_assoc,
        List.takeWhile_append_of_pos hpositive]
      simp
  · rintro rfl
    -- from the end of the location backwards
    have hsplit := List.takeWhile_append_dropWhile (p := (· != '@')) (l := location.reverse)
    have hstop := List.head?_dropWhile_not (· != '@') location.reverse
    refine ⟨fun hmem => ?_, ?_⟩
    · have hne := List.mem_takeWhile_imp (List.mem_reverse.1 hmem)
      simp at hne
    · cases hback : location.reverse.dropWhile (· != '@') with
      | nil =>
        rw [hback, List.append_nil] at hsplit
        exact .inl (by rw [afterLast, hsplit, List.reverse_reverse])
      | cons c user =>
        rw [hback] at hsplit hstop
        obtain rfl : c = '@' := by simpa using hstop
        refine .inr ⟨user.reverse, ?_⟩
        have hmirrored := congrArg List.reverse hsplit
        rw [List.reverse_reverse, List.reverse_append, List.reverse_cons,
          List.append_assoc] at hmirrored
        exact hmirrored.symm

/-- The host of a text without brackets ends at the first colon. -/
theorem hasHost_bare_iff {target host : List Char} (h : '[' ∉ target) :
    HasHost target host ↔ (splitFirst ':' target).1 = host := by
  constructor
  · rintro (⟨port, rfl, -, -⟩ | ⟨rfl, -⟩ | ⟨port, rfl, -, hinside, hbehind⟩)
    · exact absurd List.mem_cons_self h
    · exact absurd List.mem_cons_self h
    · cases port with
      | nil => rw [List.append_nil, splitFirst_of_not_mem hinside]
      | cons c port =>
        obtain rfl := hbehind c rfl
        rw [splitFirst_append hinside]
  · rintro rfl
    by_cases hcolon : ':' ∈ target
    · obtain ⟨host, port, rfl, hinside⟩ := List.eq_append_cons_of_mem hcolon
      rw [splitFirst_append hinside]
      refine .bare (':' :: port) rfl h hinside fun c hc => ?_
      exact (Option.some.inj hc).symm
    · rw [splitFirst_of_not_mem hcolon]
      exact .bare [] (List.append_nil _).symm h hcolon fun c hc => nomatch hc

theorem hasHost_closed_iff {inside port host : List Char} (h : ']' ∉ inside) :
    HasHost ('[' :: (inside ++ ']' :: port)) host
      ↔ host = inside ∧ ∀ c, port.head? = some c → c = ':' := by
  constructor
  · rintro (⟨port', htext, hinside, hbehind⟩ | ⟨htext, hinside⟩ | ⟨_, -, hplain, -, -⟩)
    · have hsplit := splitFirst_append h port
      rw [(List.cons.inj htext).2, splitFirst_append hinside] at hsplit
      cases hsplit
      exact ⟨rfl, hbehind⟩
    · rw [← (List.cons.inj htext).2] at hinside
      simp at hinside
    · exact absurd List.mem_cons_self hplain
  · rintro ⟨rfl, hbehind⟩
    exact .closed port rfl h hbehind

theorem hasHost_opened_iff {inside host : List Char} (h : ']' ∉ inside) :
    HasHost ('[' :: inside) host ↔ host = inside := by
  constructor
  · rintro (⟨port, htext, -, -⟩ | ⟨htext, -⟩ | ⟨_, -, hplain, -, -⟩)
    · rw [(List.cons.inj htext).2] at h
      simp at h
    · exact (List.cons.inj htext).2.symm
    · exact absurd List.mem_cons_self hplain
  · rintro rfl
    exact .opened rfl h

/-- Nothing stands in front of the bracket. -/
theorem not_hasHost {before inside host : List Char} (hne : before ≠ []) (h : '[' ∉ before) :
    ¬ HasHost (before ++ '[' :: inside) host := by
  obtain ⟨c, more, rfl⟩ := List.exists_cons_of_ne_nil hne
  have hc : '[' ≠ c := (not_or.1 (mt List.mem_cons.2 h)).1
  rintro (⟨port, htext, -, -⟩ | ⟨htext, -⟩ | ⟨_, -, hplain, -, -⟩)
  · exact hc (List.cons.inj htext).1.symm
  · exact hc (List.cons.inj htext).1.symm
  · simp at hplain

theorem bracketFault?_eq_none_iff {location : List Char} :
    bracketFault? location = none ↔ ∃ target host, HasTarget location target
      ∧ HasHost target host ∧ (isFutureVersion host = true ∨ isVersion6 host = true) := by
  simp only [hasTarget_iff, exists_and_left, exists_eq_left', ← hostFault?_eq_none_iff,
    bracketFault?]
  generalize afterLast '@' location = target
  by_cases hbracket : '[' ∈ target
  · obtain ⟨before, inside, rfl, hbefore⟩ := List.eq_append_cons_of_mem hbracket
    rw [splitFirst_append hbefore]
    by_cases hempty : before = []
    · subst hempty
      by_cases hclosed : ']' ∈ inside
      · obtain ⟨host, port, rfl, hhost⟩ := List.eq_append_cons_of_mem hclosed
        simp only [List.nil_append, hasHost_closed_iff hhost, splitFirst_append hhost]
        cases port with
        | nil => simp
        | cons c port => by_cases hc : c = ':' <;> simp [hc]
      · simp [hasHost_opened_iff hclosed, splitFirst_of_not_mem hclosed]
    · simp [not_hasHost hempty hbefore, hempty]
  · rw [splitFirst_of_not_mem hbracket]
    simp [hasHost_bare_iff hbracket]

/-- **A location has a fault unless it is let through.** -/
theorem locationFault?_eq_none_iff {location : List Char} :
    locationFault? location = none ↔ IsLocation location := by
  have hplain : (if location.any isDelimiterLookalike then
        some (Fault.lookalike (String.ofList location)) else none) = none
      ↔ ∀ c ∈ location, isDelimiterLookalike c = false := by
    cases hany : location.any isDelimiterLookalike with
    | true =>
      obtain ⟨c, hc, hlook⟩ := List.any_eq_true.1 hany
      refine iff_of_false (fun hnone => nomatch hnone) fun hall => ?_
      rw [hall c hc] at hlook
      exact nomatch hlook
    | false =>
      exact iff_of_true rfl fun c hc => Bool.eq_false_iff.2 (List.any_eq_false.1 hany c hc)
  have hbrackets : (if location.contains '[' && location.contains ']' then bracketFault? location
        else if location.contains '[' || location.contains ']' then some .brackets else none) = none
      ↔ ('[' ∈ location ↔ ']' ∈ location) ∧ ('[' ∈ location → bracketFault? location = none) := by
    simp only [Bool.and_eq_true, Bool.or_eq_true, List.contains_iff_mem]
    by_cases hopened : '[' ∈ location <;> by_cases hclosed : ']' ∈ location <;>
      simp [hopened, hclosed]
  rw [locationFault?]
  refine (Option.orElse_eq_none _ _).trans ?_
  rw [hbrackets, hplain, bracketFault?_eq_none_iff]
  exact ⟨fun h => ⟨h.1.1, h.1.2, h.2⟩, fun h => ⟨⟨h.paired, h.address⟩, h.plain⟩⟩

/-! ## URLs

A text has one scheme at most, and none when two slashes stand in front, so what is said of some
scheme and some rest is said of those that are found. -/

/-- The scheme is one of the two of a request, in letters of either case. -/
def IsRequestScheme (scheme : List Char) : Prop :=
  scheme.map Char.toLower = "http".toList ∨ scheme.map Char.toLower = "https".toList

/-- The text is the URL of a request: one of the two schemes, a colon, two slashes and a location
that is not empty and let through. -/
def IsRequestUrl (w : List Char) : Prop :=
  ∃ scheme rest location, HasScheme w scheme rest ∧ IsRequestScheme scheme
    ∧ HasLocation rest location ∧ location ≠ [] ∧ IsLocation location

/-- The text, or what stands behind its scheme and colon, starts with two slashes and a location
that is not let through. -/
def HasBadLocation (w : List Char) : Prop :=
  ∃ rest location, (rest = w ∨ ∃ scheme, HasScheme w scheme rest)
    ∧ HasLocation rest location ∧ ¬ IsLocation location

theorem isLocation_nil : IsLocation [] :=
  locationFault?_eq_none_iff.1 (by decide)

/-- What two slashes do not stand in front of has no bad location. -/
theorem exists_bad_iff {rest : List Char} :
    (∃ location, HasLocation rest location ∧ ¬ IsLocation location)
      ↔ ¬ IsLocation (locationOf rest) := by
  constructor
  · rintro ⟨location, hlocation, hbad⟩
    rwa [locationOf_of_hasLocation hlocation]
  · intro hbad
    by_cases hsome : ∃ location, HasLocation rest location
    · obtain ⟨location, hlocation⟩ := hsome
      rw [locationOf_of_hasLocation hlocation] at hbad
      exact ⟨location, hlocation, hbad⟩
    · rw [locationOf_of_none hsome] at hbad
      exact absurd isLocation_nil hbad

variable {w scheme rest : List Char}

theorem hasBadLocation_of_hasScheme (h : HasScheme w scheme rest) :
    HasBadLocation w ↔ ¬ IsLocation (locationOf rest) := by
  rw [← exists_bad_iff]
  constructor
  · rintro ⟨rest', location, rfl | ⟨scheme', h'⟩, hlocation, hbad⟩
    · exact absurd hlocation h.not_hasLocation
    · obtain ⟨-, rfl⟩ := h.unique h'
      exact ⟨location, hlocation, hbad⟩
  · rintro ⟨location, hlocation, hbad⟩
    exact ⟨rest, location, .inr ⟨scheme, h⟩, hlocation, hbad⟩

theorem hasBadLocation_of_none (h : ¬ ∃ scheme rest, HasScheme w scheme rest) :
    HasBadLocation w ↔ ¬ IsLocation (locationOf w) := by
  rw [← exists_bad_iff]
  constructor
  · rintro ⟨rest', location, rfl | ⟨scheme', h'⟩, hlocation, hbad⟩
    · exact ⟨location, hlocation, hbad⟩
    · exact absurd ⟨scheme', rest', h'⟩ h
  · rintro ⟨location, hlocation, hbad⟩
    exact ⟨w, location, .inl rfl, hlocation, hbad⟩

theorem isRequestUrl_of_hasScheme (h : HasScheme w scheme rest) :
    IsRequestUrl w
      ↔ IsRequestScheme scheme ∧ locationOf rest ≠ [] ∧ IsLocation (locationOf rest) := by
  constructor
  · rintro ⟨scheme', rest', location, h', hscheme, hlocation, hne, hgood⟩
    obtain ⟨rfl, rfl⟩ := h.unique h'
    rw [locationOf_of_hasLocation hlocation]
    exact ⟨hscheme, hne, hgood⟩
  · rintro ⟨hscheme, hne, hgood⟩
    have hsome : ∃ location, HasLocation rest location :=
      not_not.1 fun hnone => hne (locationOf_of_none hnone)
    obtain ⟨location, hlocation⟩ := hsome
    rw [locationOf_of_hasLocation hlocation] at hne hgood
    exact ⟨scheme, rest, location, h, hscheme, hlocation, hne, hgood⟩

/-- No text is both. -/
theorem IsRequestUrl.not_hasBadLocation (h : IsRequestUrl w) : ¬ HasBadLocation w := by
  obtain ⟨scheme, rest, location, hscheme, -, hlocation, -, hgood⟩ := h
  rw [hasBadLocation_of_hasScheme hscheme, locationOf_of_hasLocation hlocation, not_not]
  exact hgood

/-- The parts are those of the text: the scheme in small letters, when there is one. -/
inductive HasParts (w : List Char) : Parts → Prop
  | withScheme {scheme rest : List Char} (h : HasScheme w scheme rest) :
      HasParts w ⟨scheme.map Char.toLower, locationOf rest⟩
  | withoutScheme (h : ¬ ∃ scheme rest, HasScheme w scheme rest) : HasParts w ⟨[], locationOf w⟩

/-- **A URL is split into its parts unless it has a bad location.** -/
theorem split_cases (url : List Char) :
    (¬ HasBadLocation (clean url) ∧ ∃ parts, split url = .ok parts ∧ HasParts (clean url) parts)
      ∨ HasBadLocation (clean url) ∧ ∃ fault, split url = .error fault := by
  by_cases hscheme : ∃ scheme rest, HasScheme (clean url) scheme rest
  · obtain ⟨scheme, rest, h⟩ := hscheme
    rw [hasBadLocation_of_hasScheme h, ← locationFault?_eq_none_iff]
    simp only [split, splitScheme_of_hasScheme h]
    cases hfault : locationFault? (locationOf rest) with
    | none => exact .inl ⟨not_not.2 rfl, _, rfl, .withScheme h⟩
    | some fault => exact .inr ⟨Option.some_ne_none fault, fault, rfl⟩
  · rw [hasBadLocation_of_none hscheme, ← locationFault?_eq_none_iff]
    simp only [split, splitScheme_of_none hscheme]
    cases hfault : locationFault? (locationOf (clean url)) with
    | none => exact .inl ⟨not_not.2 rfl, _, rfl, .withoutScheme hscheme⟩
    | some fault => exact .inr ⟨Option.some_ne_none fault, fault, rfl⟩

end FlowLint.Url
