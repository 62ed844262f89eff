import ChassisRegistry.Proofs.Digits
import ChassisRegistry.SocketAddress.Reader
import Mathlib.Algebra.Group.Nat.Defs

/-! # Socket addresses read back

    Every reader takes its part off the front of the text, so each part is
    read back together with whatever follows it, as long as that cannot be
    taken for more of the same. Groups need the most care: at each of them the
    reader first tries an IPv4 address, which fails at the next colon, and the
    groups in front of `::` end where a colon is followed by a colon.

    Main statement: `SocketAddress.parse?_text`. -/

namespace ChassisRegistry

open Decimal (isDigit)

namespace SocketAddress

/-! ## Section 1: Numbers -/

/-- What follows begins with a character that is no digit in base sixteen and no point. -/
def Stops (rest : List Char) : Prop :=
  ∃ c more, rest = c :: more ∧ isDigit 16 c = false ∧ c ≠ '.'

theorem isDigit_ten {c : Char} (h : isDigit 10 c = true) : isDigit 16 c = true := by
  unfold isDigit at *
  split at h
  · next d hd =>
    have hlt : d < 10 := of_decide_eq_true h
    exact decide_eq_true (by omega)
  · cases h

theorem Stops.head?_sixteen {rest : List Char} (h : Stops rest) :
    ∀ c, rest.head? = some c → isDigit 16 c = false := by
  obtain ⟨c, more, rfl, hc, _⟩ := h
  intro d hd
  cases hd
  exact hc

theorem Stops.head?_ten {rest : List Char} (h : Stops rest) :
    ∀ c, rest.head? = some c → isDigit 10 c = false := by
  intro c hc
  have hsixteen := h.head?_sixteen c hc
  rw [← Bool.not_eq_true] at hsixteen ⊢
  exact mt isDigit_ten hsixteen

/-- A number is read back from its digits, when there are not too many of them. -/
theorem number_toDigits {base : Nat} (hbase : 1 < base) (hle : base ≤ 16) {digits : Option Nat}
    {greatest n : Nat} (hn : n ≤ greatest)
    (hdigits : ∀ k, digits = some k → 0 < k ∧ n < base ^ k) {rest : List Char}
    (hrest : ∀ c, rest.head? = some c → isDigit base c = false) :
    number base digits greatest (Nat.toDigits base n ++ rest) = some (n, rest) := by
  have hspan := Decimal.span_digits (Decimal.isDigit_of_mem_toDigits hbase hle n) hrest
  have hvalue := Decimal.ofDigits_toDigits hbase hle n
  have hempty : (Nat.toDigits base n).isEmpty = false := by
    rw [List.isEmpty_eq_false_iff]
    exact Nat.toDigits_ne_nil
  have hlong : (match digits with
      | some k => decide (k < (Nat.toDigits base n).length)
      | none => false) = false := by
    cases digits with
    | none => rfl
    | some k =>
      obtain ⟨hk, hlt⟩ := hdigits k rfl
      have := (Nat.length_toDigits_le_iff hbase hk).mpr hlt
      exact decide_eq_false (by omega)
  have hgreatest : decide (greatest < n) = false := decide_eq_false (by omega)
  simp only [number, hspan, hvalue, hempty, hgreatest]
  cases digits with
  | none => rfl
  | some k =>
    simp only at hlong
    simp [hlong]

/-- Without a digit at the front there is no number. -/
theorem number_of_no_digit {base : Nat} {digits : Option Nat} {greatest : Nat} {cs : List Char}
    (h : ∀ c, cs.head? = some c → isDigit base c = false) :
    number base digits greatest cs = none := by
  have hspan : Decimal.span base ([] ++ cs) = ([], cs) := Decimal.span_digits (by simp) h
  rw [List.nil_append] at hspan
  simp [number, hspan]

/-! ## Section 2: IPv4 addresses -/

theorem after_cons (c : Char) (rest : List Char) : after c (c :: rest) = some rest :=
  if_pos rfl

theorem after_cons_ne {c d : Char} (h : d ≠ c) (rest : List Char) : after c (d :: rest) = none :=
  if_neg h

theorem octet_ofNat (n : UInt8) {rest : List Char}
    (hrest : ∀ c, rest.head? = some c → isDigit 10 c = false) :
    octet (Decimal.ofNat n.toNat ++ rest) = some (n, rest) := by
  have hn : n.toNat < 256 := n.toNat_lt
  have hnumber : number 10 (some 3) 255 (Decimal.ofNat n.toNat ++ rest) =
      some (n.toNat, rest) := by
    apply number_toDigits (by omega) (by omega) (by omega) _ hrest
    intro k hk
    cases hk
    omega
  have hzero : ¬ ((Decimal.ofNat n.toNat ++ rest).head? = some '0' ∧
      rest.length + 1 < (Decimal.ofNat n.toNat ++ rest).length) := by
    rintro ⟨hhead, hlong⟩
    have hne : Decimal.ofNat n.toNat ≠ [] := Nat.toDigits_ne_nil
    have hfront : (Decimal.ofNat n.toNat).head? = some '0' := by
      cases hcs : Decimal.ofNat n.toNat with
      | nil => exact absurd hcs hne
      | cons c cs =>
        rw [hcs] at hhead
        exact hhead
    have hvalue := Decimal.head?_toDigits (by omega) n.toNat hfront
    rw [hvalue, List.length_append] at hlong
    have hone : (Decimal.ofNat 0).length = 1 := rfl
    omega
  simp only [octet, hnumber, Option.bind_eq_bind, Option.bind_some, if_neg hzero]
  simp

/-- An IPv4 address is read back. -/
theorem host4_text (h : IPv4) {rest : List Char}
    (hrest : ∀ c, rest.head? = some c → isDigit 10 c = false) :
    host4 (h.text ++ rest) = some (h, rest) := by
  have hpoint : ∀ cs : List Char, ∀ c, ('.' :: cs).head? = some c → isDigit 10 c = false := by
    intro cs c hc
    cases hc
    decide
  simp only [IPv4.text, List.append_assoc, List.cons_append]
  simp only [host4, octet_ofNat _ (hpoint _), octet_ofNat _ hrest, after_cons,
    Option.bind_eq_bind, Option.bind_some]
  rfl

theorem rest_of_octet {cs rest : List Char} {n : UInt8} (h : octet cs = some (n, rest)) :
    rest = cs.dropWhile (isDigit 10) := by
  rw [octet, Option.bind_eq_bind, Option.bind_eq_some_iff] at h
  obtain ⟨⟨value, left⟩, hnumber, hleft⟩ := h
  have hleft' : left = cs.dropWhile (isDigit 10) := by
    simp only [number] at hnumber
    split at hnumber
    · cases hnumber
    · cases hnumber
      rfl
  simp only at hleft
  split at hleft
  · cases hleft
  · cases hleft
    exact hleft'

/-- There is no IPv4 address where a row of digits does not end at a point. -/
theorem host4_eq_none {cs : List Char} (h : (cs.dropWhile (isDigit 10)).head? ≠ some '.') :
    host4 cs = none := by
  cases hoctet : octet cs with
  | none => rw [host4, hoctet, Option.bind_eq_bind, Option.bind_none]
  | some found =>
    obtain ⟨n, rest⟩ := found
    have hrest := rest_of_octet hoctet
    have hpoint : after '.' rest = none := by
      rw [hrest]
      cases hcs : cs.dropWhile (isDigit 10) with
      | nil => rfl
      | cons c more =>
        rw [hcs] at h
        exact after_cons_ne (fun heq => h (congrArg some heq)) more
    simp only [host4, hoctet, Option.bind_eq_bind, Option.bind_some, hpoint, Option.bind_none]

theorem head?_dropWhile_ne {p : Char → Bool} {cs rest : List Char} {c : Char}
    (hcs : ∀ d ∈ cs, d ≠ c) (hrest : ∀ d, rest.head? = some d → p d = false ∧ d ≠ c) :
    ((cs ++ rest).dropWhile p).head? ≠ some c := by
  induction cs with
  | nil =>
    cases rest with
    | nil => simp
    | cons d more =>
      obtain ⟨hp, hd⟩ := hrest d rfl
      simp [hp, hd]
  | cons d more ih =>
    rw [List.cons_append, List.dropWhile_cons]
    split
    · exact ih fun x hx => hcs x (List.mem_cons_of_mem d hx)
    · have hd := hcs d List.mem_cons_self
      simp [hd]

/-! ## Section 3: Groups -/

/-- Groups with a colon in front of each. -/
def colonGroups (gs : List UInt16) : List Char :=
  gs.flatMap fun g => ':' :: Nat.toDigits 16 g.toNat

theorem groupsText_cons (g : UInt16) (gs : List UInt16) :
    IPv6.groupsText (g :: gs) = Nat.toDigits 16 g.toNat ++ colonGroups gs := by
  induction gs generalizing g with
  | nil => simp [IPv6.groupsText, colonGroups]
  | cons h more ih =>
    rw [IPv6.groupsText, ih]
    · simp [colonGroups]
    · exact List.cons_ne_nil _ _

theorem Stops.of_cons {c : Char} (hdigit : isDigit 16 c = false) (hpoint : c ≠ '.')
    (rest : List Char) : Stops (c :: rest) :=
  ⟨c, rest, rfl, hdigit, hpoint⟩

variable {rest : List Char}

theorem Stops.colonGroups (h : Stops rest) (gs : List UInt16) :
    Stops (colonGroups gs ++ rest) := by
  cases gs with
  | nil => exact h
  | cons g more => exact .of_cons (by decide) (by decide) _

theorem host4_of_stops (h : Stops rest) : host4 rest = none := by
  apply host4_eq_none
  have hhead := h.head?_ten
  obtain ⟨c, more, rfl, _, hpoint⟩ := h
  have hc := hhead c rfl
  simp [hc, hpoint]

/-- No group is taken for the front of an IPv4 address. -/
theorem host4_group (g : UInt16) (h : Stops rest) :
    host4 (Nat.toDigits 16 g.toNat ++ rest) = none := by
  apply host4_eq_none
  apply head?_dropWhile_ne
  · intro d hd heq
    have hdigit := Decimal.isDigit_of_mem_toDigits (by omega) (Nat.le_refl 16) g.toNat d hd
    rw [heq] at hdigit
    exact absurd hdigit (by decide)
  · intro d hd
    have hten := h.head?_ten d hd
    obtain ⟨c, more, rfl, _, hpoint⟩ := h
    cases hd
    exact ⟨hten, hpoint⟩

theorem number_group (g : UInt16) (h : Stops rest) :
    number 16 (some 4) 65535 (Nat.toDigits 16 g.toNat ++ rest) = some (g.toNat, rest) := by
  have hg : g.toNat < 65536 := g.toNat_lt
  apply number_toDigits (by omega) (by omega) (by omega) _ h.head?_sixteen
  intro k hk
  cases hk
  omega

/-- Groups are over where no colon follows, or a colon without a group behind it. -/
theorem groups_over {n : Nat}
    (h : after ':' rest = none ∨ ∃ body, rest = ':' :: body ∧ Stops body) :
    groups n false rest = ([], false, rest) := by
  cases n with
  | zero => rfl
  -- A colon with no group behind it is left where it is, as the reader takes both or neither.
  | succ n =>
    rcases h with hnone | ⟨body, rfl, hbody⟩
    · simp only [groups, Bool.false_eq_true, if_false, hnone]
    · simp only [groups, Bool.false_eq_true, if_false, after_cons, host4_of_stops hbody,
        number_of_no_digit hbody.head?_sixteen, ite_self]

/-- One group in front of others. -/
theorem groups_group (n : Nat) (first : Bool) (g : UInt16) {cs : List Char} (h : Stops rest)
    (hcs : (if first then some cs else after ':' cs) =
      some (Nat.toDigits 16 g.toNat ++ rest)) :
    groups (n + 1) first cs =
      (g :: (groups n false rest).1, (groups n false rest).2.1, (groups n false rest).2.2) := by
  simp only [groups, hcs, host4_group g h, number_group g h, ite_self, UInt16.ofNat_toNat]

/-- Groups with a colon in front of each are read back, up to the limit. -/
theorem groups_colonGroups {gs : List UInt16} {n : Nat} (hn : gs.length ≤ n) (h : Stops rest)
    (hover : groups (n - gs.length) false rest = ([], false, rest)) :
    groups n false (colonGroups gs ++ rest) = (gs, false, rest) := by
  -- On the groups; each of them uses up one of the `n` that may still come.
  induction gs generalizing n with
  | nil => exact hover
  | cons g more ih =>
    obtain ⟨m, rfl⟩ : ∃ m, n = m + 1 := ⟨n - 1, by rw [List.length_cons] at hn; omega⟩
    rw [List.length_cons] at hn hover
    have hmore := ih (show more.length ≤ m by omega)
      (by rwa [show m + 1 - (more.length + 1) = m - more.length by omega] at hover)
    rw [groups_group m false g (h.colonGroups more) (by simp [colonGroups, after_cons]), hmore]

/-- Groups with colons between them are read back, up to the limit. -/
theorem groups_groupsText {gs : List UInt16} {n : Nat} (hn : gs.length ≤ n + 1) (h : Stops rest)
    (hover : groups (n + 1 - gs.length) false rest = ([], false, rest)) :
    groups (n + 1) true (IPv6.groupsText gs ++ rest) = (gs, false, rest) := by
  cases gs with
  | nil =>
    simp only [IPv6.groupsText, List.nil_append, groups, if_true, host4_of_stops h,
      number_of_no_digit h.head?_sixteen, ite_self]
  | cons g more =>
    rw [List.length_cons] at hn hover
    have hmore : groups n false (colonGroups more ++ rest) = (more, false, rest) := by
      apply groups_colonGroups (by omega) h
      rwa [show n + 1 - (more.length + 1) = n - more.length by omega] at hover
    rw [groupsText_cons, List.append_assoc,
      groups_group n true g (h.colonGroups more) (if_pos rfl), hmore]

/-! ## Section 4: IPv6 addresses -/

theorem zeroRun_le (gs : List UInt16) : IPv6.zeroRun gs ≤ gs.length := by
  induction gs with
  | nil => exact Nat.le_refl 0
  | cons g more ih =>
    rw [IPv6.zeroRun, List.length_cons]
    split <;> omega

theorem take_zeroRun (gs : List UInt16) :
    gs.take (IPv6.zeroRun gs) = List.replicate (IPv6.zeroRun gs) 0 := by
  induction gs with
  | nil => rfl
  | cons g more ih =>
    rw [IPv6.zeroRun]
    split
    · next hg => rw [List.take_succ_cons, ih, hg, List.replicate_succ]
    · rfl

/-- The longest run is a run of zeros in the list. -/
theorem longestRun_spec (gs : List UInt16) :
    (IPv6.longestRun gs).1 + (IPv6.longestRun gs).2 ≤ gs.length ∧
      (gs.drop (IPv6.longestRun gs).1).take (IPv6.longestRun gs).2 =
        List.replicate (IPv6.longestRun gs).2 0 := by
  induction gs with
  | nil => exact ⟨Nat.le_refl 0, rfl⟩
  | cons g more ih =>
    simp only [IPv6.longestRun]
    split
    -- Either the run begins here, or it is the longest one further on.
    · have hle := zeroRun_le (g :: more)
      exact ⟨by simpa using hle, take_zeroRun (g :: more)⟩
    · refine ⟨?_, ih.2⟩
      have := ih.1
      simp only [List.length_cons]
      omega

theorem eq_of_mapped? {gs : List UInt16} {inner : IPv4} (h : IPv6.mapped? gs = some inner) :
    gs = List.replicate 5 0 ++ 0xffff :: inner.groups := by
  unfold IPv6.mapped? at h
  split at h
  · next high low =>
    cases h
    have hgroup : ∀ n : UInt16, (n / 256).toUInt8.toUInt16 * 256 + n.toUInt8.toUInt16 = n := by
      intro n
      have hn : n.toNat < 65536 := n.toNat_lt
      apply UInt16.toNat_inj.mp
      simp only [UInt16.toNat_add, UInt16.toNat_mul, UInt16.toNat_ofNat, UInt8.toNat_toUInt16,
        UInt16.toNat_toUInt8, UInt16.toNat_div, Nat.reducePow, Nat.reduceMod]
      omega
    simp only [IPv4.groups, IPv4.ofGroups, hgroup]
    rfl
  · cases h

/-- What follows an address: the end of the brackets or a scope. -/
theorem over_of_stops (h : Stops rest) (hcolon : rest.head? ≠ some ':') (n : Nat) :
    groups n false rest = ([], false, rest) := by
  apply groups_over
  left
  obtain ⟨c, more, rfl, _⟩ := h
  exact after_cons_ne (fun heq => hcolon (congrArg some heq)) more

theorem ofGroups_groups (host : IPv6) : ofGroups host.groups = some host :=
  dif_pos host.eight

/-- The groups on the two sides of `::` are read back, with zeros between them. -/
theorem host6_compressed (host : IPv6) {head tail : List UInt16} {l : Nat} (hl : 1 < l)
    (hgroups : host.groups = head ++ List.replicate l 0 ++ tail) {cs : List Char}
    (htail : ∃ four, groups (7 - head.length) true cs = (tail, four, rest)) :
    host6 (IPv6.groupsText head ++ ':' :: ':' :: cs) = some (host, rest) := by
  have height := host.eight
  rw [hgroups] at height
  simp only [List.length_append, List.length_replicate] at height
  obtain ⟨four, htail⟩ := htail
  have hstops : Stops (':' :: cs) := .of_cons (by decide) (by decide) _
  -- The groups in front end at the first of the two colons, and `tail` is read behind the second;
  -- what is missing to eight groups are the zeros.
  have hhead : groups 8 true (IPv6.groupsText head ++ ':' :: ':' :: cs) =
      (head, false, ':' :: ':' :: cs) := by
    apply groups_groupsText (by omega) (.of_cons (by decide) (by decide) _)
    exact groups_over (.inr ⟨_, rfl, hstops⟩)
  have hshort : ¬ head.length = 8 := by omega
  have hzeros : 8 - head.length - tail.length = l := by omega
  have hall : ofGroups (head ++ List.replicate l 0 ++ tail) = some host := by
    rw [← hgroups, ofGroups_groups]
  simp only [host6, hhead, hshort, if_false, Bool.false_eq_true, after_cons, htail, hzeros, hall,
    Option.bind_eq_bind, Option.bind_some]
  rfl

/-- An IPv4 address takes the place of the last two groups. -/
theorem groups_host4 (inner : IPv4) {n : Nat} (hn : 1 ≤ n) (h : Stops rest) :
    groups (n + 1) false (':' :: (inner.text ++ rest)) = (inner.groups, true, rest) := by
  simp only [groups, Bool.false_eq_true, if_false, after_cons, if_pos hn,
    host4_text inner h.head?_ten]

theorem mapped_front : "::ffff:".toList = ':' :: ':' :: (Nat.toDigits 16 0xffff ++ [':']) := by
  decide +kernel

/-- An IPv6 address is read back. -/
theorem host6_text (host : IPv6) (h : Stops rest) (hcolon : rest.head? ≠ some ':') :
    host6 (host.text ++ rest) = some (host, rest) := by
  have height := host.eight
  have hover := over_of_stops h hcolon
  unfold IPv6.text
  split
  · next inner hmapped =>
    -- The last two groups are written as an IPv4 address.
    have hstops : Stops (':' :: (inner.text ++ rest)) := .of_cons (by decide) (by decide) _
    have hinner := groups_group 6 true 0xffff hstops (if_pos rfl)
    rw [groups_host4 inner (by omega) h] at hinner
    have hgroups : host.groups = [] ++ List.replicate 5 0 ++ 0xffff :: inner.groups :=
      eq_of_mapped? hmapped
    have hcompressed := host6_compressed host (by omega) hgroups ⟨true, hinner⟩
    simp only [mapped_front, List.append_assoc, List.cons_append, List.nil_append]
    exact hcompressed
  · obtain ⟨hle, hzeros⟩ := longestRun_spec host.groups
    simp only
    split
    · next hlong =>
      have hlength : (host.groups.take (IPv6.longestRun host.groups).1).length =
          (IPv6.longestRun host.groups).1 := by
        rw [List.length_take]
        omega
      have hsplit : host.groups = host.groups.take (IPv6.longestRun host.groups).1 ++
          List.replicate (IPv6.longestRun host.groups).2 0 ++
          host.groups.drop ((IPv6.longestRun host.groups).1 +
            (IPv6.longestRun host.groups).2) := by
        rw [← hzeros, ← List.drop_drop, List.append_assoc, List.take_append_drop,
          List.take_append_drop]
      rw [List.append_assoc, List.cons_append, List.cons_append]
      apply host6_compressed host hlong hsplit
      refine ⟨false, ?_⟩
      rw [hlength]
      obtain ⟨n, hn⟩ : ∃ n, 7 - (IPv6.longestRun host.groups).1 = n + 1 :=
        ⟨6 - (IPv6.longestRun host.groups).1, by omega⟩
      rw [hn]
      apply groups_groupsText _ h (hover _)
      rw [List.length_drop]
      omega
    -- Without a run of zeros to leave out, all eight groups are there.
    · have hgroups : groups 8 true (IPv6.groupsText host.groups ++ rest) =
          (host.groups, false, rest) :=
        groups_groupsText (by omega) h (hover _)
      simp only [host6, hgroups, height, if_true, ofGroups_groups, Option.bind_eq_bind,
        Option.bind_some]
      rfl

/-! ## Section 5: Addresses with a port -/

theorem portAfter_ofNat (port : UInt16) :
    portAfter (':' :: Decimal.ofNat port.toNat) = some (port, []) := by
  have hport : port.toNat < 65536 := port.toNat_lt
  have hnumber : number 10 none 65535 (Decimal.ofNat port.toNat ++ []) =
      some (port.toNat, []) :=
    number_toDigits (by omega) (by omega) (by omega) (by simp) (by simp)
  rw [List.append_nil] at hnumber
  simp only [portAfter, after_cons, hnumber, Option.bind_eq_bind, Option.bind_some,
    UInt16.ofNat_toNat]
  rfl

/-- A scope is read back; no scope is zero. -/
theorem scopeAt_scope (scope : UInt32) (rest : List Char) :
    scopeAt ((if scope = 0 then [] else '%' :: Decimal.ofNat scope.toNat) ++ ']' :: rest) =
      (scope, ']' :: rest) := by
  by_cases hzero : scope = 0
  · rw [if_pos hzero, List.nil_append, scopeAt, after_cons_ne (by decide), Option.bind_none, hzero]
  · have hscope : scope.toNat < 4294967296 := scope.toNat_lt
    have hnumber : number 10 none 4294967295 (Decimal.ofNat scope.toNat ++ ']' :: rest) =
        some (scope.toNat, ']' :: rest) := by
      apply number_toDigits (by omega) (by omega) (by omega) (by simp)
      intro c hc
      cases hc
      decide
    rw [if_neg hzero, List.cons_append, scopeAt, after_cons, Option.bind_some, hnumber]
    simp only [UInt32.ofNat_toNat]

theorem stops_scope (scope : UInt32) (rest : List Char) :
    Stops ((if scope = 0 then [] else '%' :: Decimal.ofNat scope.toNat) ++ ']' :: rest) ∧
      ((if scope = 0 then [] else '%' :: Decimal.ofNat scope.toNat) ++ ']' :: rest).head? ≠
        some ':' := by
  split
  · exact ⟨.of_cons (by decide) (by decide) _, by simp⟩
  · exact ⟨.of_cons (by decide) (by decide) _, by simp⟩

/-- **Address round trip**: every socket address is read back from its text. -/
theorem parse?_text (a : SocketAddress) : parse? a.text = some a := by
  have hcolon : ∀ cs : List Char, ∀ c, (':' :: cs).head? = some c → isDigit 10 c = false := by
    intro cs c hc
    cases hc
    decide
  rw [parse?, text, String.toList_ofList]
  cases a with
  | v4 host port =>
    simp only [characters, socket4, host4_text host (hcolon _), portAfter_ofNat,
      Option.bind_eq_bind, Option.bind_some]
    rfl
  | v6 host scope port =>
    -- A bracket is not the front of an IPv4 address, which is tried first.
    have hfour : ∀ cs, socket4 ('[' :: cs) = none := by
      intro cs
      have hhost : host4 ('[' :: cs) = none :=
        host4_of_stops (.of_cons (by decide) (by decide) cs)
      rw [socket4, hhost]
      rfl
    obtain ⟨hstops, hhead⟩ := stops_scope scope (':' :: Decimal.ofNat port.toNat)
    have hhost := host6_text host hstops hhead
    have hsocket : socket6 ('[' :: (host.text ++
        ((if scope = 0 then [] else '%' :: Decimal.ofNat scope.toNat) ++
          ']' :: ':' :: Decimal.ofNat port.toNat))) = some (.v6 host scope port, []) := by
      simp only [socket6, after_cons, hhost, scopeAt_scope, portAfter_ofNat, Option.bind_eq_bind,
        Option.bind_some]
      rfl
    simp only [characters, List.append_assoc, List.cons_append, hfour, Option.orElse_none, hsocket]

end SocketAddress

end ChassisRegistry
