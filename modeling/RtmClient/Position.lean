import RtmClient.Position.Decimal

/-!
# Channel positions

`rtm::channel_position` of `rtmclient.h`: a generation and an offset, which `str` writes as
two decimal numerals joined by `:` and `parse` reads back with `strtoll` and `strtoull`.
`parse` reads back every string `str` writes, and more: the C library skips white space,
takes a sign, saturates values out of range, and a NUL ends the string it sees.
-/

namespace RtmClient

/-- `rtm::channel_position`. -/
structure ChannelPosition where
  gen : UInt32
  pos : UInt64
  deriving DecidableEq, Repr

namespace ChannelPosition

/-- `channel_position::str`: `std::to_string(gen) + ":" + std::to_string(pos)`. -/
def str (q : ChannelPosition) : String :=
  toString q.gen ++ ":" ++ toString q.pos

/-- `channel_position::parse`.  `strtoll` and `strtoull` always set the end pointer, so the
comparisons with `nullptr` never hold and are left out, as is `BOOST_ASSERT(pos <= ...)`,
which every `uint64_t` meets. -/
def parse (str : String) : Except Failure ChannelPosition :=
  let c_str := str.data ++ ['\x00']
  let (gen, str_pos) := strtoll c_str
  if gen ≤ UINT32_MAX.toNat then
    if str_pos = c_str ∨ str_pos.head? ≠ some ':' then .ok ⟨0, 0⟩
    else
      let (pos, str_pos) := strtoull str_pos.tail
      if str_pos.head? ≠ some '\x00' then .ok ⟨0, 0⟩
      else .ok ⟨UInt32.ofNat (gen % 2 ^ 32).toNat, pos⟩
  else .error (.assertion "gen <= std::numeric_limits<uint32_t>::max()")

theorem str_data (q : ChannelPosition) :
    q.str.data = Nat.toDigits 10 q.gen.toNat ++ ':' :: Nat.toDigits 10 q.pos.toNat := by
  show (Nat.toDigits 10 q.gen.toNat ++ [':']) ++ _ = _
  simp

/-! ## The strings `parse` reads a position from -/

/-- A string cut into what `parse` reads from it: white space, a sign and a numeral for the
generation, a colon, white space, a sign and a numeral for the offset, and what follows. -/
structure Layout where
  genSpace : List Char
  genSign : List Char
  genDigits : List Char
  posSpace : List Char
  posSign : List Char
  posDigits : List Char
  tail : List Char

namespace Layout

/-- The characters of the string. -/
def text (t : Layout) : List Char :=
  t.genSpace ++ t.genSign ++ t.genDigits ++
    ':' :: (t.posSpace ++ t.posSign ++ t.posDigits ++ t.tail)

/-- The layouts `strtoll` and `strtoull` read to the end: the offset may be missing
altogether, and the string ends after the offset or goes on after a NUL. -/
structure WellFormed (t : Layout) : Prop where
  genSpace : ∀ c ∈ t.genSpace, isSpace c
  genSign : SignText t.genSign
  genDigits : Numeral t.genDigits
  posSpace : ∀ c ∈ t.posSpace, isSpace c
  posSign : SignText t.posSign
  posDigits : Numeral t.posDigits ∨ t.posSpace = [] ∧ t.posSign = [] ∧ t.posDigits = []
  tail : ∀ c ∈ t.tail.head?, c = '\x00'

/-- The generation `strtoll` reads. -/
def gen (t : Layout) : Int := toLongLong (decide (t.genSign = ['-'])) (ofDigits t.genDigits)

/-- The position `parse` returns for the string. -/
def value (t : Layout) : ChannelPosition :=
  ⟨UInt32.ofNat (t.gen % 2 ^ 32).toNat,
    toUnsignedLongLong (decide (t.posSign = ['-'])) (ofDigits t.posDigits)⟩

end Layout

/-! ## Reading a position -/

theorem noDigitAhead_cons {c : Char} {t : List Char} (h : c.isDigit = false) :
    NoDigitAhead (c :: t) := by
  rintro _ ⟨⟩
  exact h

theorem head_append_nul_iff (l : List Char) :
    (l ++ ['\x00']).head? = some '\x00' ↔ ∀ c ∈ l.head?, c = '\x00' := by
  cases l <;> simp [eq_comm]

theorem parse_error_iff_gen (s : String) :
    (exists f, parse s = .error f) ↔ (UINT32_MAX.toNat : Int) < (strtoll s.data).1 := by
  simp only [parse, strtoll_append_nul]
  split
  · refine iff_of_false ?_ (by omega)
    rintro ⟨f, hf⟩
    split at hf
    · cases hf
    · split at hf <;> cases hf
  · exact iff_of_true ⟨_, rfl⟩ (by omega)

theorem strtoll_gt_iff (l : List Char) :
    (UINT32_MAX.toNat : Int) < (strtoll l).1 ↔
      exists ws sg ds rest, l = ws ++ sg ++ ds ++ rest ∧ (∀ c ∈ ws, isSpace c) ∧
        (sg = [] ∨ sg = ['+']) ∧ Numeral ds ∧ NoDigitAhead rest ∧ 2 ^ 32 ≤ ofDigits ds := by
  constructor
  · intro h
    rcases hs : subject l with _ | s
    · simp [strtoll, hs] at h
    obtain ⟨ws, sg, rfl, hws, hsg, hneg, hds, hrest⟩ := subject_some hs
    simp only [strtoll, hs, toLongLong, LLONG_MAX, UINT32_MAX_toNat] at h
    split at h
    · omega
    · have hsg' : sg ≠ ['-'] := by simp_all
      refine ⟨ws, sg, s.digits, s.rest, rfl, hws, hsg.imp_right (·.resolve_right hsg'), hds,
        hrest, ?_⟩
      omega
  · rintro ⟨ws, sg, ds, rest, rfl, hws, hsg, hds, hrest, hle⟩
    have hminus : decide (sg = ['-']) = false := by rcases hsg with rfl | rfl <;> rfl
    simp only [strtoll, subject_eq hws (hsg.imp_right .inl) hds hrest, hminus,
      toLongLong_false, LLONG_MAX, UINT32_MAX_toNat]
    omega

theorem parse_layout {t : Layout} (ht : t.WellFormed) (hgen : t.gen ≤ UINT32_MAX.toNat) :
    parse ⟨t.text⟩ = .ok t.value := by
  have hll :
      strtoll t.text = (t.gen, ':' :: (t.posSpace ++ t.posSign ++ t.posDigits ++ t.tail)) := by
    simp only [Layout.text, strtoll,
      subject_eq ht.genSpace ht.genSign ht.genDigits (noDigitAhead_cons (c := ':') rfl)]
    rfl
  have hne : (':' :: (t.posSpace ++ t.posSign ++ t.posDigits ++ t.tail)) ++ ['\x00'] ≠
      t.text ++ ['\x00'] := fun h => by
    have := congrArg List.length h
    have := List.length_pos.2 ht.genDigits.1
    simp only [Layout.text, List.length_append, List.length_cons] at *
    omega
  have htail : NoDigitAhead t.tail := fun c hc => by rw [ht.tail c hc]; rfl
  have hull : strtoull (t.posSpace ++ t.posSign ++ t.posDigits ++ t.tail) =
      (toUnsignedLongLong (decide (t.posSign = ['-'])) (ofDigits t.posDigits), t.tail) := by
    rcases ht.posDigits with hds | ⟨h1, h2, h3⟩
    · simp only [strtoull, subject_eq ht.posSpace ht.posSign hds htail]
    · simp only [h1, h2, h3, List.nil_append]
      cases h : t.tail with
      | nil => rfl
      | cons c r =>
        rw [ht.tail c (by simp [h])]
        rfl
  unfold parse
  dsimp only
  rw [strtoll_append_nul, hll]
  dsimp only
  rw [if_pos hgen, if_neg (not_or.2 ⟨hne, by simp⟩)]
  simp only [List.cons_append, List.tail_cons, strtoull_append_nul, hull,
    (head_append_nul_iff _).2 ht.tail]
  rfl

theorem parse_ok_layout {s : String} {q : ChannelPosition} (h : parse s = .ok q)
    (hq : q ≠ ⟨0, 0⟩) : exists t : Layout, t.WellFormed ∧ s.data = t.text ∧ q = t.value := by
  rcases hll : strtoll s.data with ⟨gen, e⟩
  unfold parse at h
  dsimp only at h
  rw [strtoll_append_nul, hll] at h
  dsimp only at h
  split at h
  case isFalse => cases h
  split at h
  · exact absurd (Except.ok.inj h).symm hq
  rename_i hcolon
  obtain ⟨hne, hhead⟩ := not_or.1 hcolon
  obtain ⟨r, rfl⟩ : exists r, e = ':' :: r := by
    cases e with
    | nil => simp at hhead
    | cons c r => simp at hhead; exact ⟨r, by rw [hhead]⟩
  rcases hull : strtoull r with ⟨pos, e2⟩
  simp only [List.cons_append, List.tail_cons, strtoull_append_nul, hull] at h
  split at h
  · exact absurd (Except.ok.inj h).symm hq
  rename_i hnul
  have htail := (head_append_nul_iff e2).1 (not_not.1 hnul)
  cases (Except.ok.inj h)
  rcases hs : subject s.data with _ | g
  · simp only [strtoll, hs, Prod.mk.injEq] at hll
    exact absurd (by rw [hll.2]) hne
  simp only [strtoll, hs, Prod.mk.injEq] at hll
  obtain ⟨rfl, hrest⟩ := hll
  obtain ⟨ws, sg, hdata, hws, hsg, hneg, hds, -⟩ := subject_some hs
  rw [hrest] at hdata
  rcases hp : subject r with _ | p
  · simp only [strtoull, hp, Prod.mk.injEq] at hull
    obtain ⟨rfl, rfl⟩ := hull
    refine ⟨⟨ws, sg, g.digits, [], [], [], r⟩, ⟨hws, hsg, hds, (fun _ h => nomatch h), .inl rfl,
      .inr ⟨rfl, rfl, rfl⟩, htail⟩, by simp [hdata, Layout.text], ?_⟩
    simp only [Layout.value, Layout.gen, hneg]
    rfl
  · simp only [strtoull, hp, Prod.mk.injEq] at hull
    obtain ⟨rfl, rfl⟩ := hull
    obtain ⟨ws', sg', hr, hws', hsg', hneg', hds', -⟩ := subject_some hp
    refine ⟨⟨ws, sg, g.digits, ws', sg', p.digits, p.rest⟩, ⟨hws, hsg, hds, hws', hsg', .inl hds',
      htail⟩, by simp [hdata, hr, Layout.text], ?_⟩
    simp only [Layout.value, Layout.gen, hneg, hneg']

theorem parse_numerals {ds ds' : List Char} (hds : Numeral ds) (hds' : Numeral ds')
    (hgen : ofDigits ds ≤ 2 ^ 32 - 1) (hpos : ofDigits ds' ≤ 2 ^ 64 - 1) :
    parse ⟨ds ++ ':' :: ds'⟩ = .ok ⟨UInt32.ofNat (ofDigits ds), UInt64.ofNat (ofDigits ds')⟩ := by
  have ht : Layout.WellFormed ⟨[], [], ds, [], [], ds', []⟩ :=
    ⟨(fun _ h => nomatch h), .inl rfl, hds, (fun _ h => nomatch h), .inl rfl, .inl hds',
      (fun _ h => nomatch h)⟩
  have hg : Layout.gen ⟨[], [], ds, [], [], ds', []⟩ = ofDigits ds := by
    show toLongLong false (ofDigits ds) = _
    simp only [toLongLong_false, LLONG_MAX]
    omega
  have := parse_layout ht (by rw [hg, UINT32_MAX_toNat]; omega)
  simp only [Layout.text, List.nil_append, List.append_nil] at this
  rw [this]
  show Except.ok (ChannelPosition.mk _ (toUnsignedLongLong false (ofDigits ds'))) = _
  rw [hg, toUnsignedLongLong_false hpos]
  congr
  omega

/-- `parse` reads back every position `str` writes. -/
theorem parse_str (q : ChannelPosition) : parse q.str = .ok q := by
  have hg : q.gen.toNat < 2 ^ 32 := q.gen.toBitVec.isLt
  have hp : q.pos.toNat < 2 ^ 64 := q.pos.toBitVec.isLt
  have := parse_numerals (toDigits_numeral q.gen.toNat) (toDigits_numeral q.pos.toNat)
    (by rw [ofDigits_toDigits]; omega) (by rw [ofDigits_toDigits]; omega)
  rw [ofDigits_toDigits, ofDigits_toDigits, UInt32.toNat.inj (UInt32.toNat_ofNat_of_lt hg),
    UInt64.toNat.inj (UInt64.toNat_ofNat_of_lt hp), ← str_data] at this
  exact this

theorem parse_reads_layouts :
    (∀ s : String, (exists f, parse s = .error f) ↔
      exists ws sg ds rest, s.data = ws ++ sg ++ ds ++ rest ∧ (∀ c ∈ ws, isSpace c) ∧
        (sg = [] ∨ sg = ['+']) ∧ Numeral ds ∧ NoDigitAhead rest ∧ 2 ^ 32 ≤ ofDigits ds) ∧
    (∀ t : Layout, t.WellFormed -> t.gen ≤ UINT32_MAX.toNat -> parse ⟨t.text⟩ = .ok t.value) ∧
    (∀ s q, parse s = .ok q -> q ≠ ⟨0, 0⟩ ->
      exists t : Layout, t.WellFormed ∧ s.data = t.text ∧ q = t.value) ∧
    (∀ ds ds', Numeral ds -> Numeral ds' -> ofDigits ds ≤ 2 ^ 32 - 1 ->
      ofDigits ds' ≤ 2 ^ 64 - 1 ->
      parse ⟨ds ++ ':' :: ds'⟩ = .ok ⟨UInt32.ofNat (ofDigits ds), UInt64.ofNat (ofDigits ds')⟩) :=
  ⟨fun s => (parse_error_iff_gen s).trans (strtoll_gt_iff s.data),
    fun _ ht hgen => parse_layout ht hgen, fun _ _ h hq => parse_ok_layout h hq,
    fun _ _ hds hds' hg hp => parse_numerals hds hds' hg hp⟩

/- Strings outside the grammar read as the C library documents it: a generation out of range
fails the assertion, white space and a sign are accepted, and the string ends at a NUL. -/
example :
    parse "4294967296:1" = .error (.assertion "gen <= std::numeric_limits<uint32_t>::max()") ∧
    parse " 1:2" = .ok ⟨1, 2⟩ ∧ parse "-1:2" = .ok ⟨4294967295, 2⟩ ∧
    parse "1:-2" = .ok ⟨1, 18446744073709551614⟩ ∧ parse "1:2\x00x" = .ok ⟨1, 2⟩ :=
  ⟨rfl, rfl, rfl, rfl, rfl⟩

/-- The offset is read without the checks the generation gets: `strtoull` saturates an offset
out of range at `ULLONG_MAX`, which the assertion on `pos` never rejects, and an empty offset is
read as `0`, where an empty generation gives `{0, 0}`. -/
theorem parse_offset_unchecked :
    parse "1:18446744073709551616" = .ok ⟨1, 18446744073709551615⟩ ∧
      parse "1:99999999999999999999999" = .ok ⟨1, 18446744073709551615⟩ ∧
      parse "1:" = .ok ⟨1, 0⟩ ∧ parse ":5" = .ok ⟨0, 0⟩ :=
  ⟨rfl, rfl, rfl, rfl⟩

end ChannelPosition

end RtmClient
