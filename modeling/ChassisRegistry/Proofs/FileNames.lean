import ChassisRegistry.Path
import Mathlib.Data.List.Basic

/-! # Names and paths

    A text is told by the bytes of its name, and no other character than a
    slash has the byte of a slash in it. So the names on a path that was put
    together from names are these names again.

    Main statements: `FileName.ofText_injective`, `Path.names_child`,
    `Path.exists_take_of_mem_ancestors`. -/

namespace ChassisRegistry

/-! ## Section 1: Texts as names -/

namespace FileName

/-- Bytes are listed one after the other, those that were listed before first. -/
theorem toList_loop (past rest listed : List UInt8) :
    ByteArray.toList.loop ⟨(past ++ rest).toArray⟩ past.length listed = listed.reverse ++ rest := by
  induction rest generalizing past listed with
  | nil =>
    rw [ByteArray.toList.loop, if_neg (by simp [ByteArray.size]), List.append_nil]
  | cons b rest ih =>
    have hnext : (⟨(past ++ b :: rest).toArray⟩ : ByteArray).get! past.length = b := by
      simp [ByteArray.get!]
    have hshift := ih (past ++ [b]) (b :: listed)
    rw [List.append_assoc, List.singleton_append, List.length_append, List.length_singleton]
      at hshift
    rw [ByteArray.toList.loop, if_pos (by simp [ByteArray.size]), hnext, hshift,
      List.reverse_cons, List.append_assoc, List.singleton_append]

theorem toList_bytes (bytes : ByteArray) : bytes.toList = bytes.data.toList :=
  toList_loop [] bytes.data.toList []

/-- A name is made of the bytes of the characters. -/
theorem ofText_eq (s : String) : ofText s = s.toList.flatMap String.utf8EncodeChar := by
  rw [ofText, toList_bytes]
  conv => lhs; rw [← String.ofList_toList (s := s)]
  exact List.toList_data_toByteArray

theorem text?_ofText (s : String) : text? (ofText s) = some s := by
  rw [text?, ofText, toList_bytes]
  exact dif_pos s.isValidUTF8

theorem ofText_injective : Function.Injective ofText := by
  intro s t h
  have htext := congrArg text? h
  rw [text?_ofText, text?_ofText] at htext
  exact Option.some.inj htext

theorem slash_ne_ofNat {n : Nat} (hn : n < 256) (hne : n ≠ 47) : ¬ slash = UInt8.ofNat n := by
  intro h
  have hnat := congrArg UInt8.toNat h
  rw [UInt8.toNat_ofNat_of_lt' hn] at hnat
  exact hne hnat.symm

/-- Only a slash is written with its byte: the bytes of a character that takes several are above
    it. -/
theorem eq_slash_of_mem {c : Char} (h : slash ∈ String.utf8EncodeChar c) : c = '/' := by
  unfold String.utf8EncodeChar at h
  simp only at h
  split at h
  · rw [List.mem_singleton] at h
    have hcode : c.val.toNat = 47 := by
      apply Decidable.byContradiction
      intro hne
      exact slash_ne_ofNat (by omega) hne h
    exact Char.toNat_inj.mp hcode
  · exfalso
    split_ifs at h
    all_goals
      simp (disch := omega) only [List.mem_cons, List.not_mem_nil, slash_ne_ofNat, or_self] at h

theorem slash_not_mem_ofText {s : String} (h : '/' ∉ s.toList) : slash ∉ ofText s := by
  rw [ofText_eq, List.mem_flatMap]
  rintro ⟨c, hc, hslash⟩
  rw [eq_slash_of_mem hslash] at hc
  exact h hc

theorem ofText_ne_nil {s : String} (h : s ≠ "") : ofText s ≠ [] := by
  intro hnil
  have hblank : ofText s = ofText "" := hnil.trans (ofText_eq "").symm
  exact h (ofText_injective hblank)

/-- A name that can stand between slashes. -/
def Plain (name : FileName) : Prop := name ≠ [] ∧ slash ∉ name

end FileName

/-! ## Section 2: The names on a path -/

namespace Path

open FileName (slash)

theorem exists_cut (bytes : List UInt8) : ∃ first others, cut bytes = first :: others := by
  induction bytes with
  | nil => exact ⟨[], [], rfl⟩
  | cons b rest ih =>
    obtain ⟨first, others, hrest⟩ := ih
    rw [cut, hrest]
    split
    · exact ⟨[], first :: others, rfl⟩
    · exact ⟨b :: first, others, rfl⟩

theorem not_mem_of_mem_cut {bytes : List UInt8} {name : FileName} (h : name ∈ cut bytes) :
    slash ∉ name := by
  induction bytes generalizing name with
  | nil =>
    rw [cut, List.mem_singleton] at h
    rw [h]
    exact List.not_mem_nil
  | cons b rest ih =>
    obtain ⟨first, others, hrest⟩ := exists_cut rest
    rw [cut, hrest] at h
    rw [hrest] at ih
    split at h
    · rcases List.mem_cons.mp h with heq | hmem
      · rw [heq]
        exact List.not_mem_nil
      · exact ih hmem
    · next hb =>
      rcases List.mem_cons.mp h with heq | hmem
      · rw [heq, List.mem_cons, not_or]
        exact ⟨Ne.symm hb, ih List.mem_cons_self⟩
      · exact ih (List.mem_cons_of_mem _ hmem)

theorem cut_of_not_mem {name : FileName} (h : slash ∉ name) : cut name = [name] := by
  induction name with
  | nil => rfl
  | cons b rest ih =>
    rw [List.mem_cons, not_or] at h
    rw [cut, if_neg (Ne.symm h.1), ih h.2]

theorem cut_append_slash (front rest : List UInt8) :
    cut (front ++ slash :: rest) = cut front ++ cut rest := by
  induction front with
  | nil => exact if_pos rfl
  | cons b front ih =>
    obtain ⟨first, others, hfront⟩ := exists_cut front
    rw [List.cons_append, cut, cut, ih, hfront]
    split
    · rfl
    · rfl

variable {p : Path} {name : FileName}

theorem plain_of_mem_names (h : name ∈ p.names) : name.Plain := by
  obtain ⟨hmem, hne⟩ := List.mem_filter.mp h
  exact ⟨of_decide_eq_true hne, not_mem_of_mem_cut hmem⟩

theorem names_append_slash (front rest : List UInt8) :
    names ⟨front ++ slash :: rest⟩ = names ⟨front⟩ ++ names ⟨rest⟩ := by
  rw [names, cut_append_slash, List.filter_append]
  rfl

theorem names_of_plain (h : name.Plain) : names ⟨name⟩ = [name] := by
  rw [names, cut_of_not_mem h.2]
  exact List.filter_cons_of_pos (decide_eq_true h.1)

theorem isAbsolute_of_plain (h : name.Plain) : isAbsolute ⟨name⟩ = false := by
  rw [isAbsolute, beq_eq_false_iff_ne]
  intro hhead
  exact h.2 (List.mem_of_mem_head? hhead)

/-- Only slashes give no name. -/
theorem isAbsolute_of_names_eq_nil (hne : p.bytes ≠ []) (h : p.names = []) : p.isAbsolute := by
  obtain ⟨b, rest, hbytes⟩ := List.exists_cons_of_ne_nil hne
  obtain ⟨first, others, hrest⟩ := exists_cut rest
  rw [isAbsolute, hbytes, List.head?_cons, beq_iff_eq, Option.some.injEq]
  apply Decidable.byContradiction
  intro hb
  rw [names, hbytes, cut, if_neg hb, hrest] at h
  simp at h

/-! ## Section 3: The path of a file in a directory -/

theorem bytes_child (h : name.Plain) :
    (p.child name).bytes =
      if p.bytes = [] ∨ p.asksDirectory then p.bytes ++ name else p.bytes ++ slash :: name := by
  rw [child, join, isAbsolute_of_plain h]
  simp only [Bool.false_eq_true, if_false]
  split
  · rfl
  · rfl

/-- A path that asks for a directory ends in a slash. -/
theorem exists_of_asksDirectory (h : p.asksDirectory) : ∃ front, p.bytes = front ++ [slash] := by
  rw [asksDirectory, beq_iff_eq] at h
  exact ⟨p.bytes.dropLast, (List.dropLast_append_getLast? _ h).symm⟩

theorem names_child (h : name.Plain) : (p.child name).names = p.names ++ [name] := by
  have hnames : (p.child name).names = names ⟨(p.child name).bytes⟩ := rfl
  have hown : p.names = names ⟨p.bytes⟩ := rfl
  rw [hnames, bytes_child h, hown]
  split
  · next hjoin =>
    rcases hjoin with hnil | hasks
    · rw [hnil, List.nil_append, names_of_plain h]
      rfl
    · obtain ⟨front, hfront⟩ := exists_of_asksDirectory hasks
      rw [hfront, List.append_assoc, List.singleton_append, names_append_slash, names_append_slash,
        names_of_plain h, List.append_assoc]
      rfl
  · rw [names_append_slash, names_of_plain h]

theorem isAbsolute_child (h : name.Plain) : (p.child name).isAbsolute = p.isAbsolute := by
  have hplain := isAbsolute_of_plain h
  rw [isAbsolute, bytes_child h]
  unfold isAbsolute at hplain ⊢
  cases hbytes : p.bytes with
  | nil => simpa using hplain
  | cons b rest => split <;> rfl

/-! ## Section 4: The paths above a path -/

theorem names_intercalate {ns : List FileName} (h : ∀ name ∈ ns, FileName.Plain name) :
    names ⟨[slash].intercalate ns⟩ = ns := by
  induction ns with
  | nil => rfl
  | cons first rest ih =>
    cases rest with
    | nil =>
      rw [List.intercalate_singleton]
      exact names_of_plain (h first List.mem_cons_self)
    | cons second rest =>
      rw [List.intercalate_cons_cons, List.append_assoc, List.singleton_append, names_append_slash,
        names_of_plain (h first List.mem_cons_self),
        ih fun name hname => h name (List.mem_cons_of_mem _ hname), List.singleton_append]

theorem names_ofNames (absolute : Bool) {ns : List FileName}
    (h : ∀ name ∈ ns, FileName.Plain name) : (ofNames absolute ns).names = ns := by
  rw [ofNames]
  split
  · rw [List.singleton_append, ← List.nil_append (slash :: _), names_append_slash,
      names_intercalate h]
    rfl
  · exact names_intercalate h

theorem isAbsolute_ofNames (absolute : Bool) {ns : List FileName}
    (h : ∀ name ∈ ns, FileName.Plain name) (hne : ns ≠ []) :
    (ofNames absolute ns).isAbsolute = absolute := by
  cases absolute with
  | true => rfl
  | false =>
    obtain ⟨first, rest, rfl⟩ := List.exists_cons_of_ne_nil hne
    have hfirst := h first List.mem_cons_self
    obtain ⟨b, tail, rfl⟩ := List.exists_cons_of_ne_nil hfirst.1
    have hrelative := isAbsolute_of_plain hfirst
    unfold isAbsolute at hrelative ⊢
    cases rest with
    | nil => simpa [ofNames] using hrelative
    | cons second rest => simpa [ofNames] using hrelative

/-- A path above leads along the first names. -/
theorem exists_take_of_mem_ancestors {q : Path} (h : q ∈ p.ancestors) :
    q.isAbsolute = p.isAbsolute ∧
      ∃ n, q.names = (p.names.filter (· ≠ FileName.here)).take n := by
  unfold ancestors at h
  obtain ⟨n, hn, rfl⟩ := List.mem_map.mp h
  rw [List.mem_reverse] at hn
  have hplain : ∀ name ∈ (p.names.filter (· ≠ FileName.here)).take n, FileName.Plain name :=
    fun name hname => plain_of_mem_names (List.mem_filter.mp (List.mem_of_mem_take hname)).1
  refine ⟨isAbsolute_ofNames _ hplain ?_, n, names_ofNames _ hplain⟩
  -- The path of no names is left out.
  rw [List.range_eq_range', List.drop_range', List.mem_range'] at hn
  obtain ⟨i, hi, rfl⟩ := hn
  intro hnil
  rcases List.take_eq_nil_iff.mp hnil with hzero | hempty
  · omega
  · rw [hempty, List.length_nil] at hi
    omega

end Path

end ChassisRegistry
