import Aggchain.Lib.Numeral
import Mathlib.Data.List.Induction

/-!
# Socket addresses, as `std::net` prints and parses them

`SocketAddr.parse_display` is the round trip: the zeros that an IPv6 address hides under `::` are
found again.
-/

namespace Net

/-! ## IPv4 -/

/-- `Ipv4Addr`, by its octets. -/
structure Ipv4Addr where
  a : UInt8
  b : UInt8
  c : UInt8
  d : UInt8
  deriving DecidableEq

/-- `Parser::read_given_char` -/
def readGivenChar (target : Char) : List Char → Option (List Char)
  | c :: rest => if c = target then some rest else none
  | [] => none

/-- A group of `read_ipv4_addr`: no octal numbers. -/
def readOctet (s : List Char) : Option (UInt8 × List Char) :=
  (readNumber 10 255 (some 3) false s).map (fun r => (UInt8.ofNat r.1, r.2))

/-- `Parser::read_ipv4_addr` -/
def readIpv4Addr (s : List Char) : Option (Ipv4Addr × List Char) := do
  let (a, s) ← readOctet s
  let s ← readGivenChar '.' s
  let (b, s) ← readOctet s
  let s ← readGivenChar '.' s
  let (c, s) ← readOctet s
  let s ← readGivenChar '.' s
  let (d, s) ← readOctet s
  pure (⟨a, b, c, d⟩, s)

def decimal (n : ℕ) : List Char := Nat.toDigits 10 n

/-- `Display` -/
def Ipv4Addr.display (self : Ipv4Addr) : List Char :=
  decimal self.a.toNat ++ '.' :: (decimal self.b.toNat ++ '.' :: (decimal self.c.toNat ++
    '.' :: decimal self.d.toNat))

section Ipv4

variable {rest s : List Char}

@[simp] theorem readGivenChar_cons (c : Char) (rest : List Char) :
    readGivenChar c (c :: rest) = some rest := if_pos rfl

theorem readOctet_decimal (n : UInt8) (hrest : NoDigit 10 rest) :
    readOctet (decimal n.toNat ++ rest) = some (n, rest) := by
  have hn : n.toNat < 256 := n.toNat_lt
  have hlength : ∀ k ∈ some 3, (Nat.toDigits 10 n.toNat).length ≤ k := by
    rintro k ⟨⟩
    exact (Nat.length_toDigits_le_iff (by omega) (by omega)).mpr (by omega)
  rw [readOctet, decimal, readNumber_toDigits (by omega) (by omega) (by omega) hlength hrest,
    Option.map_some, UInt8.ofNat_toNat]

theorem noDigit_dot : NoDigit 10 ('.' :: rest) := noDigit_cons (by decide)

theorem readIpv4Addr_display (ip : Ipv4Addr) (hrest : NoDigit 10 rest) :
    readIpv4Addr (ip.display ++ rest) = some (ip, rest) := by
  simp only [readIpv4Addr, Ipv4Addr.display, List.append_assoc, List.cons_append,
    readOctet_decimal _ noDigit_dot, readOctet_decimal _ hrest, readGivenChar_cons, bind,
    Option.bind_some]
  rfl

/-- An IPv4 address starts with decimal digits and a dot. -/
theorem readIpv4Addr_eq_none
    (h : (s.dropWhile (fun c => (toDigit 10 c).isSome)).head? ≠ some '.') :
    readIpv4Addr s = none := by
  cases hoctet : readOctet s with
  | none => rw [readIpv4Addr, hoctet]; rfl
  | some r =>
    obtain ⟨⟨n, rest⟩, hnumber, rfl⟩ := Option.map_eq_some_iff.mp hoctet
    have hrest := readNumber_rest hnumber
    rw [← hrest] at h
    have hdot : readGivenChar '.' rest = none := by
      cases rest with
      | nil => rfl
      | cons c rest =>
        refine if_neg ?_
        rintro rfl
        exact h rfl
    rw [readIpv4Addr, hoctet]
    simp only [bind, Option.bind_some, hdot, Option.bind_none]

end Ipv4

/-! ## IPv6 -/

/-- `Ipv6Addr`, by its segments. -/
structure Ipv6Addr where
  segments : List UInt16
  length_eq : segments.length = 8
  deriving DecidableEq

/-- `Parser::read_separator` -/
def readSeparator {α : Type} (sep : Char) (index : ℕ) (inner : List Char → Option (α × List Char))
    (s : List Char) : Option (α × List Char) :=
  if 0 < index then (readGivenChar sep s).bind inner else inner s

/-- The two groups of an embedded IPv4 address. -/
def Ipv4Addr.groups (self : Ipv4Addr) : List UInt16 :=
  [self.a.toUInt16 * 256 + self.b.toUInt16, self.c.toUInt16 * 256 + self.d.toUInt16]

def readGroup (s : List Char) : Option (UInt16 × List Char) :=
  (readNumber 16 65535 (some 4) true s).map (fun r => (UInt16.ofNat r.1, r.2))

/-- What `read_groups` read: the groups, whether they end with an IPv4 address, and the rest of the
text. -/
structure Groups where
  groups : List UInt16
  ipv4 : Bool
  rest : List Char

/-- `read_groups`, from the `i`-th group on, when there is room for `room` more. -/
def readGroups : (room i : ℕ) → List Char → Groups
  | 0, _, s => ⟨[], false, s⟩
  | room + 1, i, s =>
    -- an embedded IPv4 address takes two groups
    match (if 0 < room then readSeparator ':' i readIpv4Addr s else none) with
    | some (ipv4, s) => ⟨ipv4.groups, true, s⟩
    | none =>
      match readSeparator ':' i readGroup s with
      | some (group, s) =>
        let r := readGroups room (i + 1) s
        ⟨group :: r.groups, r.ipv4, r.rest⟩
      | none => ⟨[], false, s⟩

theorem length_readGroups_le : ∀ (room i : ℕ) (s : List Char),
    (readGroups room i s).groups.length ≤ room
  | 0, _, _ => Nat.le_refl 0
  | room + 1, i, s => by
    rw [readGroups]
    split
    · rename_i ipv4 s' h
      split_ifs at h with hroom
      show 2 ≤ room + 1
      omega
    · split
      · have hle := length_readGroups_le room (i + 1)
        exact Nat.succ_le_succ (hle _)
      · exact Nat.zero_le _

/-- `Parser::read_ipv6_addr` -/
def readIpv6Addr (s : List Char) : Option (Ipv6Addr × List Char) :=
  let head := readGroups 8 0 s
  if h : head.groups.length = 8 then some (⟨head.groups, h⟩, head.rest)
  -- an IPv4 part is not allowed before `::`
  else if head.ipv4 then none
  else do
    let s ← readGivenChar ':' head.rest
    let s ← readGivenChar ':' s
    let tail := readGroups (8 - (head.groups.length + 1)) 0 s
    have hlength : (head.groups ++ List.replicate (8 - head.groups.length - tail.groups.length) 0 ++
        tail.groups).length = 8 := by
      have hhead : head.groups.length ≤ 8 := length_readGroups_le 8 0 _
      have htail : tail.groups.length ≤ 8 - (head.groups.length + 1) := length_readGroups_le _ 0 s
      rw [List.length_append, List.length_append, List.length_replicate]
      omega
    pure (⟨_, hlength⟩, tail.rest)

/-- `Ipv6Addr::to_ipv4_mapped` -/
def Ipv6Addr.toIpv4Mapped (self : Ipv6Addr) : Option Ipv4Addr :=
  match self.segments with
  | [s0, s1, s2, s3, s4, s5, ab, cd] =>
    if [s0, s1, s2, s3, s4, s5] = [0, 0, 0, 0, 0, 65535] then
      some ⟨(ab / 256).toUInt8, ab.toUInt8, (cd / 256).toUInt8, cd.toUInt8⟩
    else none
  | _ => none

structure Span where
  start : ℕ
  len : ℕ

/-- The search for the longest run of zeros: the index of the next segment, the longest run so far
and the current one. -/
structure Zeroes where
  i : ℕ
  longest : Span
  current : Span

/-- The current run with one more zero. -/
def Zeroes.extended (z : Zeroes) : Span :=
  ⟨if z.current.len = 0 then z.i else z.current.start, z.current.len + 1⟩

def Zeroes.step (z : Zeroes) (segment : UInt16) : Zeroes :=
  if segment = 0 then
    ⟨z.i + 1, if z.longest.len < z.extended.len then z.extended else z.longest, z.extended⟩
  else ⟨z.i + 1, z.longest, ⟨0, 0⟩⟩

def zeroes (segments : List UInt16) : Zeroes := segments.foldl Zeroes.step ⟨0, ⟨0, 0⟩, ⟨0, 0⟩⟩

def hex (n : ℕ) : List Char := Nat.toDigits 16 n

/-- Groups behind a first one. -/
def fmtTail (groups : List UInt16) : List Char := groups.flatMap (fun g => ':' :: hex g.toNat)

/-- `fmt_subslice` -/
def fmtSubslice : List UInt16 → List Char
  | [] => []
  | first :: tail => hex first.toNat ++ fmtTail tail

/-- `Display` -/
def Ipv6Addr.display (self : Ipv6Addr) : List Char :=
  match self.toIpv4Mapped with
  | some ipv4 => "::ffff:".toList ++ ipv4.display
  | none =>
    let longest := (zeroes self.segments).longest
    if 1 < longest.len then
      fmtSubslice (self.segments.take longest.start) ++ ':' :: ':' ::
        fmtSubslice (self.segments.drop (longest.start + longest.len))
    else fmtSubslice self.segments

/-! ### The longest run of zeros -/

section Zeroes

variable {segments : List UInt16}

theorem zeroes_concat (segments : List UInt16) (segment : UInt16) :
    zeroes (segments ++ [segment]) = (zeroes segments).step segment := by
  simp [zeroes, List.foldl_append]

/-- The segments of the run are there and are zero. -/
def Span.IsZero (segments : List UInt16) (span : Span) : Prop :=
  ∀ j, span.start ≤ j → j < span.start + span.len → segments[j]? = some 0

theorem Span.isZero_empty : Span.IsZero segments ⟨0, 0⟩ := by
  intro j hle hlt
  exact absurd hlt (Nat.not_lt_zero j)

theorem Span.IsZero.append {span : Span} (h : span.IsZero segments) (segment : UInt16) :
    span.IsZero (segments ++ [segment]) := by
  intro j hle hlt
  have hj := h j hle hlt
  rw [List.getElem?_append_left (List.getElem?_eq_some_iff.mp hj).1]
  exact hj

/-- The longest run consists of zeros, and so does the current one, which ends here. -/
structure Zeroes.Inv (segments : List UInt16) (z : Zeroes) : Prop where
  i : z.i = segments.length
  longest : z.longest.IsZero segments
  current : z.current.IsZero segments
  ends : z.current.len = 0 ∨ z.current.start + z.current.len = segments.length

theorem Zeroes.Inv.extended {z : Zeroes} (h : z.Inv segments) :
    z.extended.IsZero (segments ++ [0]) ∧
      z.extended.start + z.extended.len = (segments ++ [0]).length := by
  have hend : z.extended.start + z.extended.len = segments.length + 1 := by
    unfold Zeroes.extended
    rcases h.ends with hnone | hends
    · rw [if_pos hnone, h.i, hnone]
    · split_ifs with hnone
      · rw [h.i, hnone]
      · rw [← hends, Nat.add_assoc]
  refine ⟨?_, by rw [hend, List.length_append, List.length_singleton]⟩
  intro j hle hlt
  by_cases hj : j = segments.length
  · rw [hj, List.getElem?_concat_length]
  · -- before the new zero, the run is the old one
    have hstart : z.current.len ≠ 0 ∧ z.current.start ≤ j := by
      unfold Zeroes.extended at hle hlt hend
      split_ifs at hle hlt hend with hnone
      · rw [h.i] at hle
        have hle : segments.length ≤ j := hle
        omega
      · exact ⟨hnone, hle⟩
    have hends := h.ends.resolve_left hstart.1
    refine h.current.append 0 j hstart.2 ?_
    omega

theorem zeroes_inv (segments : List UInt16) : (zeroes segments).Inv segments := by
  induction segments using List.reverseRecOn with
  | nil => exact ⟨rfl, Span.isZero_empty, Span.isZero_empty, Or.inl rfl⟩
  | append_singleton segments segment ih =>
    have hi : (zeroes segments).i + 1 = (segments ++ [segment]).length := by
      rw [ih.i, List.length_append, List.length_singleton]
    rw [zeroes_concat, Zeroes.step]
    by_cases hzero : segment = 0
    · subst hzero
      rw [if_pos rfl]
      obtain ⟨hextended, hends⟩ := ih.extended
      refine ⟨hi, ?_, hextended, Or.inr hends⟩
      show Span.IsZero _ (if _ then _ else _)
      split_ifs
      · exact hextended
      · exact ih.longest.append 0
    · rw [if_neg hzero]
      exact ⟨hi, ih.longest.append segment, Span.isZero_empty, Or.inl rfl⟩

/-- The segments are what stands before the run, its zeros, and what stands behind it. -/
theorem Span.IsZero.split {span : Span} (h : span.IsZero segments) :
    segments.take span.start ++ List.replicate span.len 0 ++
      segments.drop (span.start + span.len) = segments := by
  have hrun : (segments.drop span.start).take span.len = List.replicate span.len 0 := by
    refine List.ext_getElem? ?_
    intro j
    by_cases hj : j < span.len
    · rw [List.getElem?_take_of_lt hj, List.getElem?_drop, List.getElem?_replicate_of_lt hj]
      exact h (span.start + j) (Nat.le_add_right _ j) (Nat.add_lt_add_left hj _)
    · rw [List.getElem?_take_eq_none (Nat.not_lt.mp hj), List.getElem?_replicate, if_neg hj]
  rw [← hrun, ← List.drop_drop, List.append_assoc, List.take_append_drop, List.take_append_drop]

theorem Span.IsZero.le_length {span : Span} (h : span.IsZero segments) (hlen : 0 < span.len) :
    span.start + span.len ≤ segments.length := by
  have hlast := h (span.start + span.len - 1) (by omega) (by omega)
  have hlt := (List.getElem?_eq_some_iff.mp hlast).1
  omega

end Zeroes

/-! ### Reading what was printed -/

section Ipv6

variable {rest s : List Char} {room i : ℕ}

/-- A text that goes on neither with a digit nor with a dot: the end of a group. -/
def GroupEnd (s : List Char) : Prop := NoDigit 16 s ∧ s.head? ≠ some '.'

theorem groupEnd_colon : GroupEnd (':' :: s) := ⟨noDigit_cons (by decide), by simp⟩

theorem readGroup_hex (g : UInt16) (hrest : NoDigit 16 rest) :
    readGroup (hex g.toNat ++ rest) = some (g, rest) := by
  have hg : g.toNat < 65536 := g.toNat_lt
  have hlength : ∀ k ∈ some 4, (Nat.toDigits 16 g.toNat).length ≤ k := by
    rintro k ⟨⟩
    exact (Nat.length_toDigits_le_iff (by omega) (by omega)).mpr (by omega)
  rw [readGroup, hex, readNumber_toDigits (by omega) (by omega) (by omega) hlength hrest,
    Option.map_some, UInt16.ofNat_toNat]

theorem mem_toDigits_ne_dot {radix n : ℕ} (hradix : 1 < radix) :
    ∀ c ∈ Nat.toDigits radix n, c ≠ '.' := by
  induction n using Nat.strongRecOn with
  | _ n ih =>
    by_cases hlt : n < radix
    · rw [Nat.toDigits_of_lt_base hlt]
      intro c hc
      rw [List.mem_singleton.mp hc]
      exact Nat.digitChar_ne '.' (by decide)
    · rw [Nat.toDigits_of_base_le hradix (Nat.not_lt.mp hlt)]
      intro c hc
      rcases List.mem_append.mp hc with hc | hc
      · exact ih (n / radix) (Nat.div_lt_self (by omega) hradix) c hc
      · rw [List.mem_singleton.mp hc]
        exact Nat.digitChar_ne '.' (by decide)

/-- A group is no IPv4 address. -/
theorem readIpv4Addr_groupEnd (hs : ∀ c ∈ s, c ≠ '.') (hrest : GroupEnd rest) :
    readIpv4Addr (s ++ rest) = none := by
  refine readIpv4Addr_eq_none ?_
  induction s with
  | nil =>
    cases rest with
    | nil => simp
    | cons c rest =>
      have hc : toDigit 10 c = none := hrest.1.mono (by omega) c rfl
      rw [List.nil_append, List.dropWhile_cons, if_neg (by simp [hc])]
      exact hrest.2
  | cons c s ih =>
    rw [List.cons_append, List.dropWhile_cons]
    split_ifs
    · exact ih fun d hd => hs d (List.mem_cons_of_mem c hd)
    · rw [List.head?_cons]
      exact fun h => hs c List.mem_cons_self (Option.some.inj h)

theorem readSeparator_zero {α : Type} (inner : List Char → Option (α × List Char)) :
    readSeparator ':' 0 inner s = inner s := rfl

theorem readSeparator_succ {α : Type} (inner : List Char → Option (α × List Char)) :
    readSeparator ':' (i + 1) inner (':' :: s) = inner s := by
  rw [readSeparator, if_pos (Nat.succ_pos i), readGivenChar_cons, Option.bind_some]

theorem readSeparator_eq_none {α : Type} {inner : List Char → Option (α × List Char)}
    (h : inner s = none) (htail : ∀ s', s = ':' :: s' → inner s' = none) :
    readSeparator ':' i inner s = none := by
  unfold readSeparator
  split_ifs
  · cases s with
    | nil => rfl
    | cons c s' =>
      by_cases hc : c = ':'
      · subst hc
        rw [readGivenChar_cons, Option.bind_some]
        exact htail s' rfl
      · rw [readGivenChar, if_neg hc]
        rfl
  · exact h

/-- Some groups and then what was read behind them. -/
def Groups.prepend (groups : List UInt16) (r : Groups) : Groups :=
  ⟨groups ++ r.groups, r.ipv4, r.rest⟩

/-- One more group is read, behind its separator. -/
theorem readGroups_hex {g : UInt16} (hsep : ∀ {α : Type} (inner : List Char → Option (α × List Char)),
    readSeparator ':' i inner s = inner (hex g.toNat ++ rest)) (hrest : GroupEnd rest) :
    readGroups (room + 1) i s = (readGroups room (i + 1) rest).prepend [g] := by
  have hipv4 : readIpv4Addr (hex g.toNat ++ rest) = none :=
    readIpv4Addr_groupEnd (mem_toDigits_ne_dot (by omega)) hrest
  rw [readGroups, hsep, hsep, hipv4, ite_self, readGroup_hex g hrest.1]
  rfl

/-- No more group is read. -/
theorem readGroups_end (hipv4 : readSeparator ':' i readIpv4Addr s = none)
    (hgroup : readSeparator ':' i readGroup s = none) : readGroups room i s = ⟨[], false, s⟩ := by
  cases room with
  | zero => rfl
  | succ room => rw [readGroups, hipv4, ite_self, hgroup]

theorem readGroup_noDigit (h : NoDigit 16 s) : readGroup s = none := by
  rw [readGroup, readNumber_noDigit h]
  rfl

theorem readIpv4Addr_noDigit (h : GroupEnd s) : readIpv4Addr s = none :=
  @readIpv4Addr_groupEnd s [] (by simp) h

theorem groupEnd_fmtTail (groups : List UInt16) (hrest : GroupEnd rest) :
    GroupEnd (fmtTail groups ++ rest) := by
  cases groups with
  | nil => exact hrest
  | cons g groups => exact groupEnd_colon

/-- Printed groups behind a first one are read. -/
theorem readGroups_fmtTail (hrest : GroupEnd rest) : ∀ (groups : List UInt16) (i : ℕ),
    readGroups (groups.length + room) (i + 1) (fmtTail groups ++ rest) =
      (readGroups room (i + 1 + groups.length) rest).prepend groups
  | [], i => by
    rw [List.length_nil, Nat.zero_add]
    rfl
  | g :: groups, i => by
    have htext : fmtTail (g :: groups) ++ rest =
        ':' :: (hex g.toNat ++ (fmtTail groups ++ rest)) := by
      rw [fmtTail, List.flatMap_cons, List.append_assoc, List.cons_append]
      rfl
    have hroom : (g :: groups).length + room = groups.length + room + 1 := by
      rw [List.length_cons]
      omega
    have hindex : i + 1 + 1 + groups.length = i + 1 + (g :: groups).length := by
      rw [List.length_cons]
      omega
    rw [hroom, htext, readGroups_hex readSeparator_succ (groupEnd_fmtTail groups hrest),
      readGroups_fmtTail hrest groups (i + 1), hindex]
    rfl

/-- Printed groups are read. -/
theorem readGroups_fmtSubslice (groups : List UInt16) (hrest : GroupEnd rest) :
    readGroups (groups.length + room) 0 (fmtSubslice groups ++ rest) =
      (readGroups room groups.length rest).prepend groups := by
  cases groups with
  | nil =>
    rw [List.length_nil, Nat.zero_add]
    rfl
  | cons g groups =>
    have htext : fmtSubslice (g :: groups) ++ rest = hex g.toNat ++ (fmtTail groups ++ rest) :=
      List.append_assoc _ _ _
    have hroom : (g :: groups).length + room = groups.length + room + 1 := by
      rw [List.length_cons]
      omega
    rw [hroom, htext, readGroups_hex readSeparator_zero (groupEnd_fmtTail groups hrest),
      readGroups_fmtTail hrest groups 0, List.length_cons, Nat.zero_add, Nat.add_comm 1]
    rfl

/-- The groups before `::` are all the groups. -/
theorem readGroups_doubleColon : readGroups room i (':' :: ':' :: s) =
    ⟨[], false, ':' :: ':' :: s⟩ := by
  refine readGroups_end (readSeparator_eq_none (readIpv4Addr_noDigit groupEnd_colon) ?_)
    (readSeparator_eq_none (readGroup_noDigit groupEnd_colon.1) ?_)
  · intro s' hs'
    obtain ⟨-, rfl⟩ := List.cons.inj hs'
    exact readIpv4Addr_noDigit groupEnd_colon
  · intro s' hs'
    obtain ⟨-, rfl⟩ := List.cons.inj hs'
    exact readGroup_noDigit groupEnd_colon.1

/-- The text behind an IPv6 address. -/
def AddrEnd (s : List Char) : Prop := GroupEnd s ∧ s.head? ≠ some ':'

theorem readGroups_addrEnd (h : AddrEnd s) : readGroups room i s = ⟨[], false, s⟩ := by
  refine readGroups_end (readSeparator_eq_none (readIpv4Addr_noDigit h.1) ?_)
    (readSeparator_eq_none (readGroup_noDigit h.1.1) ?_)
  · rintro s' rfl
    exact absurd rfl h.2
  · rintro s' rfl
    exact absurd rfl h.2

theorem readIpv6Addr_of_full {ip : Ipv6Addr} {ipv4 : Bool}
    (h : readGroups 8 0 s = ⟨ip.segments, ipv4, rest⟩) : readIpv6Addr s = some (ip, rest) := by
  unfold readIpv6Addr
  simp only [h, ip.length_eq, dif_pos]

/-- An address with `::` in it. -/
theorem readIpv6Addr_of_doubleColon {ip : Ipv6Addr} {head tail : List UInt16} {ipv4 : Bool}
    {s' : List Char} (hhead : readGroups 8 0 s = ⟨head, false, ':' :: ':' :: s'⟩)
    (htail : readGroups (8 - (head.length + 1)) 0 s' = ⟨tail, ipv4, rest⟩)
    (hlength : head.length < 8)
    (hip : head ++ List.replicate (8 - head.length - tail.length) 0 ++ tail = ip.segments) :
    readIpv6Addr s = some (ip, rest) := by
  unfold readIpv6Addr
  simp only [hhead, Nat.ne_of_lt hlength, dif_neg, not_false_eq_true, Bool.false_eq_true, if_false,
    readGivenChar_cons, bind, Option.bind_some, htail, hip]
  rfl

/-- The address with these segments before the zeros and those behind them. -/
theorem readIpv6Addr_compressed {ip : Ipv6Addr} {head tail : List UInt16}
    (hlength : head.length + tail.length < 8)
    (hip : head ++ List.replicate (8 - head.length - tail.length) 0 ++ tail = ip.segments)
    (hrest : AddrEnd rest) :
    readIpv6Addr (fmtSubslice head ++ ':' :: ':' :: (fmtSubslice tail ++ rest)) =
      some (ip, rest) := by
  have hhead : readGroups 8 0 (fmtSubslice head ++ ':' :: ':' :: (fmtSubslice tail ++ rest)) =
      ⟨head, false, ':' :: ':' :: (fmtSubslice tail ++ rest)⟩ := by
    obtain ⟨room, hroom⟩ := Nat.le.dest (show head.length ≤ 8 by omega)
    rw [← hroom, readGroups_fmtSubslice head groupEnd_colon, readGroups_doubleColon, Groups.prepend,
      List.append_nil]
  have htail : readGroups (8 - (head.length + 1)) 0 (fmtSubslice tail ++ rest) =
      ⟨tail, false, rest⟩ := by
    obtain ⟨room, hroom⟩ := Nat.le.dest (show tail.length ≤ 8 - (head.length + 1) by omega)
    rw [← hroom, readGroups_fmtSubslice tail hrest.1, readGroups_addrEnd hrest, Groups.prepend,
      List.append_nil]
  exact readIpv6Addr_of_doubleColon hhead htail (by omega) hip

/-- A group is made of its two bytes. -/
theorem toUInt16_bytes (n : UInt16) :
    (n / 256).toUInt8.toUInt16 * 256 + n.toUInt8.toUInt16 = n := by
  have hn : n.toNat < 65536 := n.toNat_lt
  have h256 : (256 : UInt16).toNat = 256 := rfl
  refine UInt16.toNat_inj.mp ?_
  rw [UInt16.toNat_add, UInt16.toNat_mul, UInt8.toNat_toUInt16, UInt8.toNat_toUInt16,
    UInt16.toNat_toUInt8, UInt16.toNat_toUInt8, UInt16.toNat_div, h256]
  omega

/-- A mapped address starts with five zeros and `ffff`. -/
theorem segments_of_toIpv4Mapped {ip : Ipv6Addr} {ipv4 : Ipv4Addr}
    (h : ip.toIpv4Mapped = some ipv4) :
    ip.segments = [0, 0, 0, 0, 0, 65535] ++ ipv4.groups := by
  unfold Ipv6Addr.toIpv4Mapped at h
  split at h
  · rename_i s0 s1 s2 s3 s4 s5 ab cd hsegments
    split_ifs at h with hmapped
    obtain rfl := Option.some.inj h
    rw [hsegments, Ipv4Addr.groups, toUInt16_bytes, toUInt16_bytes, ← hmapped]
    rfl
  · cases h

theorem readIpv6Addr_mapped {ip : Ipv6Addr} {ipv4 : Ipv4Addr} (h : ip.toIpv4Mapped = some ipv4)
    (hrest : AddrEnd rest) :
    readIpv6Addr ("::ffff:".toList ++ (ipv4.display ++ rest)) = some (ip, rest) := by
  have hipv4 : readGroups 6 1 (':' :: (ipv4.display ++ rest)) = ⟨ipv4.groups, true, rest⟩ := by
    rw [readGroups, if_pos (by omega), readSeparator_succ, readIpv4Addr_display ipv4
      (hrest.1.1.mono (by omega))]
  have htail : readGroups 7 0 (hex (65535 : UInt16).toNat ++ ':' :: (ipv4.display ++ rest)) =
      ⟨65535 :: ipv4.groups, true, rest⟩ := by
    rw [readGroups_hex readSeparator_zero groupEnd_colon, Nat.zero_add, hipv4]
    rfl
  refine readIpv6Addr_of_doubleColon readGroups_doubleColon htail (by decide) ?_
  rw [segments_of_toIpv4Mapped h]
  rfl

/-- A printed IPv6 address is read. -/
theorem readIpv6Addr_display (ip : Ipv6Addr) (hrest : AddrEnd rest) :
    readIpv6Addr (ip.display ++ rest) = some (ip, rest) := by
  unfold Ipv6Addr.display
  cases hmapped : ip.toIpv4Mapped with
  | some ipv4 =>
    rw [List.append_assoc]
    exact readIpv6Addr_mapped hmapped hrest
  | none =>
    have hzero := (zeroes_inv ip.segments).longest
    have hlength := ip.length_eq
    simp only
    split_ifs with hlong
    · have hle := hzero.le_length (by omega)
      have hhead : (ip.segments.take (zeroes ip.segments).longest.start).length =
          (zeroes ip.segments).longest.start := List.length_take_of_le (by omega)
      have htail := @List.length_drop _
        ((zeroes ip.segments).longest.start + (zeroes ip.segments).longest.len) ip.segments
      rw [List.append_assoc, List.cons_append, List.cons_append]
      refine readIpv6Addr_compressed (by omega) ?_ hrest
      have hcount : 8 - (zeroes ip.segments).longest.start - (8 -
          ((zeroes ip.segments).longest.start + (zeroes ip.segments).longest.len)) =
            (zeroes ip.segments).longest.len := by
        omega
      rw [hhead, htail, hlength, hcount, hzero.split]
    · refine @readIpv6Addr_of_full rest _ ip false ?_
      have hall := @readGroups_fmtSubslice rest 0 ip.segments hrest.1
      rw [hlength] at hall
      rw [hall, readGroups, Groups.prepend, List.append_nil]

end Ipv6

/-! ## Socket addresses -/

/-- `SocketAddr`.  No text has the flow information of an IPv6 one, which is zero after parsing and
is left out here. -/
inductive SocketAddr where
  | v4 (ip : Ipv4Addr) (port : UInt16)
  | v6 (ip : Ipv6Addr) (port : UInt16) (scopeId : UInt32)
  deriving DecidableEq

namespace SocketAddr

/-- `Parser::read_port` -/
def readPort (s : List Char) : Option (UInt16 × List Char) := do
  let s ← readGivenChar ':' s
  let (port, s) ← readNumber 10 65535 none true s
  pure (UInt16.ofNat port, s)

/-- `Parser::read_scope_id` -/
def readScopeId (s : List Char) : Option (UInt32 × List Char) := do
  let s ← readGivenChar '%' s
  let (scopeId, s) ← readNumber 10 4294967295 none true s
  pure (UInt32.ofNat scopeId, s)

/-- `Parser::read_socket_addr_v4` -/
def readV4 (s : List Char) : Option (SocketAddr × List Char) := do
  let (ip, s) ← readIpv4Addr s
  let (port, s) ← readPort s
  pure (v4 ip port, s)

/-- `Parser::read_socket_addr_v6` -/
def readV6 (s : List Char) : Option (SocketAddr × List Char) := do
  let s ← readGivenChar '[' s
  let (ip, s) ← readIpv6Addr s
  let (scopeId, s) := (readScopeId s).getD (0, s)
  let s ← readGivenChar ']' s
  let (port, s) ← readPort s
  pure (v6 ip port scopeId, s)

/-- `FromStr` -/
def parse (text : String) : Option SocketAddr :=
  match (readV4 text.toList).or (readV6 text.toList) with
  | some (addr, []) => some addr
  | _ => none

def displayScopeId (scopeId : UInt32) : List Char :=
  if scopeId = 0 then [] else '%' :: decimal scopeId.toNat

/-- `Display` -/
def display : SocketAddr → String
  | v4 ip port => String.ofList (ip.display ++ ':' :: decimal port.toNat)
  | v6 ip port scopeId =>
    String.ofList ('[' :: (ip.display ++ (displayScopeId scopeId ++
      ']' :: ':' :: decimal port.toNat)))

theorem readPort_decimal (port : UInt16) :
    readPort (':' :: decimal port.toNat) = some (port, []) := by
  have hport : port.toNat < 65536 := port.toNat_lt
  have hnumber := @readNumber_toDigits 10 65535 port.toNat none [] (by omega) (by omega) (by omega)
    (by simp) noDigit_nil true
  rw [List.append_nil] at hnumber
  rw [readPort, readGivenChar_cons, decimal]
  simp only [bind, Option.bind_some, hnumber, UInt16.ofNat_toNat]
  rfl

/-- The scope is printed unless it is zero, and read as zero if it is not printed. -/
theorem readScopeId_display (scopeId : UInt32) (s : List Char) :
    (readScopeId (displayScopeId scopeId ++ ']' :: s)).getD (0, displayScopeId scopeId ++ ']' :: s) =
      (scopeId, ']' :: s) := by
  unfold displayScopeId
  by_cases hzero : scopeId = 0
  · rw [if_pos hzero, hzero]
    rfl
  · have hscope : scopeId.toNat < 4294967296 := scopeId.toNat_lt
    have hnumber := @readNumber_toDigits 10 4294967295 scopeId.toNat none (']' :: s) (by omega)
      (by omega) (by omega) (by simp) (noDigit_cons (by decide)) true
    rw [if_neg hzero, List.cons_append, readScopeId, readGivenChar_cons, decimal]
    simp only [bind, Option.bind_some, hnumber, UInt32.ofNat_toNat]
    rfl

theorem addrEnd_scope (scopeId : UInt32) (s : List Char) :
    AddrEnd (displayScopeId scopeId ++ ']' :: s) := by
  unfold displayScopeId
  split_ifs
  · exact ⟨⟨noDigit_cons (by decide), by simp⟩, by simp⟩
  · exact ⟨⟨noDigit_cons (by decide), by simp⟩, by simp⟩

/-- A printed address is parsed. -/
theorem parse_display (addr : SocketAddr) : parse addr.display = some addr := by
  cases addr with
  | v4 ip port =>
    have hread : readV4 (ip.display ++ ':' :: decimal port.toNat) = some (v4 ip port, []) := by
      rw [readV4, readIpv4Addr_display ip (noDigit_cons (by decide))]
      simp only [bind, Option.bind_some, readPort_decimal]
      rfl
    rw [parse, display, String.toList_ofList, hread]
    rfl
  | v6 ip port scopeId =>
    have hend := addrEnd_scope scopeId (':' :: decimal port.toNat)
    have hscope := readScopeId_display scopeId (':' :: decimal port.toNat)
    have hv4 : readV4 ('[' :: (ip.display ++ (displayScopeId scopeId ++
        ']' :: ':' :: decimal port.toNat))) = none := by
      rw [readV4, readIpv4Addr_noDigit ⟨noDigit_cons (by decide), by simp⟩]
      rfl
    have hread : readV6 ('[' :: (ip.display ++ (displayScopeId scopeId ++
        ']' :: ':' :: decimal port.toNat))) = some (v6 ip port scopeId, []) := by
      rw [readV6, readGivenChar_cons]
      simp only [bind, Option.bind_some, readIpv6Addr_display ip hend, hscope, readGivenChar_cons,
        readPort_decimal]
      rfl
    rw [parse, display, String.toList_ofList, hv4, hread]
    rfl

example : (v6 ⟨[0x2001, 0xdb8, 0, 0, 1, 0, 0, 1], rfl⟩ 8080 0).display = "[2001:db8::1:0:0:1]:8080" :=
  by decide

end SocketAddr

end Net
