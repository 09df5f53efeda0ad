import Mathlib.Data.List.DropRight
import VideoReceiver.AnnexB

/-!
# The layout of an Annex B stream

Every sequence of bytes is an Annex B stream in exactly one way: some bytes in front of the first
start code, then units, each behind a start code and with zero bytes behind it. The start code has
no border, so that one that stands in a stream never overlaps with the next, and it does not end in
a zero byte, so that padding never completes one.

## Main definitions

- `PaddedUnit`, `Layout`: the parts of a stream
- `Layout.write`, `Layout.text`: the stream that has these parts

## Main statements

- `AnnexB.splitAtStartCode_append`: a start code behind bytes without one is found
- `Layout.units_write`: the units of a stream that has been written are read back
- `Layout.unique`: a stream has one layout
- `AnnexB.units_layout`: the units of any bytes are those of their only layout
-/

namespace VideoReceiver.AnnexB

/-! ## Start codes -/

theorem splitAtStartCode_cons {b : UInt8} {rest : Bytes} (h : ¬startCode <+: b :: rest) :
    splitAtStartCode (b :: rest) = (b :: (splitAtStartCode rest).1, (splitAtStartCode rest).2) := by
  rw [splitAtStartCode]
  rintro after rfl rfl
  exact h ⟨after, rfl⟩

/-- A start code that begins among bytes in front of another one does not reach into it. -/
theorem startCode_prefix_of_append {before after : Bytes}
    (h : startCode <+: before ++ startCode ++ after) (hne : before ≠ []) :
    startCode <+: before := by
  obtain ⟨rest, hrest⟩ := h
  match before, hne with
  | [_], _ => simp [startCode] at hrest
  | [_, _], _ => simp [startCode] at hrest
  | b₀ :: b₁ :: b₂ :: before, _ =>
    simp only [startCode, List.cons_append, List.nil_append, List.cons.injEq] at hrest
    obtain ⟨rfl, rfl, rfl, -⟩ := hrest
    exact ⟨before, rfl⟩

theorem splitAtStartCode_of_absent {data : Bytes} (h : ¬startCode <:+: data) :
    splitAtStartCode data = (data, none) := by
  induction data with
  | nil => rfl
  | cons b rest ih =>
    rw [splitAtStartCode_cons fun hp => h hp.isInfix, ih fun hi => h (List.infix_cons hi)]

/-- No start code begins with the first of some bytes that come before the first start code. -/
theorem not_prefix_of_absent {b : UInt8} {before : Bytes} (h : ¬startCode <:+: b :: before)
    (after : Bytes) : ¬startCode <+: b :: (before ++ startCode ++ after) := by
  intro hp
  have hbefore : startCode <+: b :: before :=
    startCode_prefix_of_append hp (List.cons_ne_nil b before)
  exact h hbefore.isInfix

/-- A start code behind bytes without one is found. -/
theorem splitAtStartCode_append {before : Bytes} (h : ¬startCode <:+: before) (after : Bytes) :
    splitAtStartCode (before ++ startCode ++ after) = (before, some after) := by
  induction before with
  | nil => rfl
  | cons b before ih =>
    rw [List.cons_append, List.cons_append, splitAtStartCode_cons (not_prefix_of_absent h after),
      ih fun hi => h (List.infix_cons hi)]

/-- Either there is no start code, or there is a first one. -/
theorem splitAtStartCode_cases (data : Bytes) :
    (splitAtStartCode data = (data, none) ∧ ¬startCode <:+: data) ∨
      ∃ before after, splitAtStartCode data = (before, some after) ∧
        data = before ++ startCode ++ after ∧ ¬startCode <:+: before := by
  by_cases h : startCode <:+: data
  · refine .inr ?_
    induction data with
    | nil => exact absurd (List.infix_nil.1 h) nofun
    | cons b rest ih =>
      by_cases hp : startCode <+: b :: rest
      · obtain ⟨after, hafter⟩ := hp
        refine ⟨[], after, ?_, hafter.symm, fun hi => absurd (List.infix_nil.1 hi) nofun⟩
        rw [← hafter]
        rfl
      · obtain ⟨before, after, hsplit, rfl, hno⟩ := ih ((List.infix_cons_iff.1 h).resolve_left hp)
        refine ⟨b :: before, after, ?_, rfl, fun hi => ?_⟩
        · rw [splitAtStartCode_cons hp, hsplit]
        · refine (List.infix_cons_iff.1 hi).elim (fun hpre => hp ?_) hno
          exact hpre.trans ⟨startCode ++ after, by simp⟩
  · exact .inl ⟨splitAtStartCode_of_absent h, h⟩

theorem eq_of_splitAtStartCode_none {data before : Bytes}
    (h : splitAtStartCode data = (before, none)) : before = data ∧ ¬startCode <:+: data := by
  obtain ⟨hsplit, hno⟩ | ⟨_, _, hsplit, -⟩ := splitAtStartCode_cases data <;> rw [hsplit] at h
  · cases h
    exact ⟨rfl, hno⟩
  · cases h

theorem eq_of_splitAtStartCode_some {data before after : Bytes}
    (h : splitAtStartCode data = (before, some after)) :
    data = before ++ startCode ++ after ∧ ¬startCode <:+: before := by
  obtain ⟨hsplit, -⟩ | ⟨_, _, hsplit, hdata, hno⟩ := splitAtStartCode_cases data <;>
    rw [hsplit] at h
  · cases h
  · cases h
    exact ⟨hdata, hno⟩

/-! ## Padding -/

theorem trimPadding_append_replicate {unit : Bytes} (h : unit.getLast? ≠ some 0) (n : Nat) :
    trimPadding (unit ++ List.replicate n 0) = unit := by
  change List.rdropWhile (· == 0) _ = unit
  induction n with
  | zero =>
    rw [List.replicate_zero, List.append_nil, List.rdropWhile_eq_self_iff]
    intro hne hzero
    rw [beq_iff_eq] at hzero
    exact h (hzero ▸ List.getLast?_eq_some_getLast hne)
  | succ n ih =>
    rw [List.replicate_succ', ← List.append_assoc, List.rdropWhile_concat_pos _ _ _ (by rfl), ih]

theorem getLast?_trimPadding (unit : Bytes) : (trimPadding unit).getLast? ≠ some 0 := by
  intro hzero
  have hne : trimPadding unit ≠ [] := by
    intro hnil
    rw [hnil] at hzero
    cases hzero
  rw [List.getLast?_eq_some_getLast hne, Option.some.injEq] at hzero
  exact List.rdropWhile_last_not (· == 0) unit hne (beq_iff_eq.2 hzero)

theorem exists_eq_trimPadding_append (unit : Bytes) :
    ∃ n, unit = trimPadding unit ++ List.replicate n 0 := by
  have hzeros : unit.rtakeWhile (· == 0) =
      List.replicate (unit.rtakeWhile (· == 0)).length 0 := by
    refine List.eq_replicate_iff.2 ⟨rfl, fun b hb => ?_⟩
    exact beq_iff_eq.1 (List.mem_rtakeWhile_imp (p := (· == 0)) hb)
  refine ⟨(unit.rtakeWhile (· == 0)).length, ?_⟩
  rw [← hzeros]
  exact List.rdropWhile_append_rtakeWhile.symm

/-- Padding completes no start code. -/
theorem absent_append_replicate {unit : Bytes} (h : ¬startCode <:+: unit) (n : Nat) :
    ¬startCode <:+: unit ++ List.replicate n 0 := by
  induction n with
  | zero => rwa [List.replicate_zero, List.append_nil]
  | succ n ih =>
    rw [List.replicate_succ', ← List.append_assoc, List.infix_concat_iff]
    rintro (⟨front, hfront⟩ | hi)
    · have hlast := congrArg List.getLast? hfront
      simp [startCode] at hlast
    · exact ih hi

/-! ## Units -/

theorem unitsFrom_of_absent {data : Bytes} (h : ¬startCode <:+: data) :
    unitsFrom data = [data] := by
  have hsplit := splitAtStartCode_of_absent h
  unfold unitsFrom
  split <;> next heq => rw [hsplit] at heq; cases heq <;> rfl

theorem unitsFrom_append {unit : Bytes} (h : ¬startCode <:+: unit) (rest : Bytes) :
    unitsFrom (unit ++ startCode ++ rest) = trimPadding unit :: unitsFrom rest := by
  have hsplit := splitAtStartCode_append h rest
  rw [unitsFrom]
  split <;> next heq => rw [hsplit] at heq; cases heq <;> rfl

theorem units_of_absent {data : Bytes} (h : ¬startCode <:+: data) : units data = [] := by
  rw [units, splitAtStartCode_of_absent h]

theorem units_append {lead : Bytes} (h : ¬startCode <:+: lead) (rest : Bytes) :
    units (lead ++ startCode ++ rest) = unitsFrom rest := by
  rw [units, splitAtStartCode_append h]

/-! ## Layouts -/

/-- A unit and the number of zero bytes behind it. -/
structure PaddedUnit where
  bytes : Bytes
  padding : Nat := 0
  deriving DecidableEq, Repr

/-- A start code, with a zero byte in front of it if it is long. -/
def code (long : Bool) : Bytes := if long then 0 :: startCode else startCode

namespace PaddedUnit

def text (u : PaddedUnit) : Bytes := u.bytes ++ List.replicate u.padding 0

/-- Writes units, each behind a start code. -/
def spell (long : Nat → Bool) : List PaddedUnit → Bytes
  | [] => []
  | u :: us => code (long 0) ++ u.text ++ spell (fun i => long (i + 1)) us

end PaddedUnit

/-- Units that can be told apart: none contains a start code, the padding in front of a start code
belongs to no unit, and there is none at the end. -/
structure WellPadded (us : List PaddedUnit) : Prop where
  absent : ∀ u ∈ us, ¬startCode <:+: u.bytes
  getLast?_ne : ∀ u ∈ us.dropLast, u.bytes.getLast? ≠ some 0
  padding_eq : ∀ u ∈ us.getLast?, u.padding = 0

namespace WellPadded

theorem nil : WellPadded [] := ⟨nofun, nofun, nofun⟩

theorem singleton_iff {u : PaddedUnit} :
    WellPadded [u] ↔ ¬startCode <:+: u.bytes ∧ u.padding = 0 := by
  constructor
  · intro h
    exact ⟨h.absent u List.mem_cons_self, h.padding_eq u rfl⟩
  · rintro ⟨hno, hpadding⟩
    exact ⟨by simpa using hno, nofun, by simpa using hpadding⟩

theorem cons_cons_iff {u v : PaddedUnit} {us : List PaddedUnit} :
    WellPadded (u :: v :: us) ↔
      (¬startCode <:+: u.bytes ∧ u.bytes.getLast? ≠ some 0) ∧ WellPadded (v :: us) := by
  constructor
  · intro h
    obtain ⟨hno, hrest⟩ := List.forall_mem_cons.1 h.absent
    obtain ⟨hlast, hlasts⟩ := List.forall_mem_cons.1 h.getLast?_ne
    refine ⟨⟨hno, hlast⟩, hrest, hlasts, ?_⟩
    have hpadding := h.padding_eq
    rwa [List.getLast?_cons_cons] at hpadding
  · rintro ⟨⟨hno, hlast⟩, h⟩
    refine ⟨List.forall_mem_cons.2 ⟨hno, h.absent⟩,
      List.forall_mem_cons.2 ⟨hlast, h.getLast?_ne⟩, ?_⟩
    rw [List.getLast?_cons_cons]
    exact h.padding_eq

end WellPadded

/-- The parts of a stream: the bytes in front of the first start code, and the units. -/
@[ext]
structure Layout where
  lead : Bytes
  units : List PaddedUnit
  lead_absent : ¬startCode <:+: lead
  wellPadded : WellPadded units

namespace Layout

/-- The stream with these parts, in which the start codes that are said to be long have four
bytes. -/
def write (l : Layout) (long : Nat → Bool) : Bytes := l.lead ++ PaddedUnit.spell long l.units

/-- The stream with these parts in which all start codes have three bytes. -/
def text (l : Layout) : Bytes := l.write fun _ => false

end Layout

/-! ## Reading back -/

namespace PaddedUnit

/-- The zero byte of a long start code is one more byte of padding. -/
theorem text_append_code (u : PaddedUnit) (long : Bool) :
    ∃ n, u.text ++ code long = u.bytes ++ List.replicate n 0 ++ startCode := by
  rcases long with _ | _
  · exact ⟨u.padding, rfl⟩
  · refine ⟨u.padding + 1, ?_⟩
    simp [text, code, List.replicate_succ', startCode]

/-- The units of a stream are read back. -/
theorem unitsFrom_spell {u : PaddedUnit} {us : List PaddedUnit} (h : WellPadded (u :: us))
    (long : Nat → Bool) :
    unitsFrom (u.text ++ spell long us) = (u :: us).map bytes := by
  induction us generalizing u long with
  | nil =>
    obtain ⟨hno, hpadding⟩ := WellPadded.singleton_iff.1 h
    have htext : u.text = u.bytes := by simp [text, hpadding]
    rw [spell, List.append_nil, htext, unitsFrom_of_absent hno]
    rfl
  | cons v us ih =>
    obtain ⟨⟨hno, hlast⟩, hrest⟩ := WellPadded.cons_cons_iff.1 h
    obtain ⟨n, hcode⟩ := u.text_append_code (long 0)
    calc unitsFrom (u.text ++ spell long (v :: us))
        = unitsFrom (u.bytes ++ List.replicate n 0 ++ startCode ++
            (v.text ++ spell (fun i => long (i + 1)) us)) := by
          rw [← hcode, spell]
          simp only [List.append_assoc]
      _ = u.bytes :: (v :: us).map bytes := by
          rw [unitsFrom_append (absent_append_replicate hno n),
            trimPadding_append_replicate hlast, ih hrest]

end PaddedUnit

namespace Layout

/-- The units of a stream that has been written are read back, whatever the start codes and the
padding are. -/
theorem units_write (l : Layout) (long : Nat → Bool) :
    AnnexB.units (l.write long) = l.units.map PaddedUnit.bytes := by
  obtain ⟨lead, us, hlead, h⟩ := l
  unfold write
  cases us with
  | nil =>
    rw [PaddedUnit.spell, List.append_nil, units_of_absent hlead]
    rfl
  | cons u us =>
    -- what stands in front of a long start code is the lead with a zero byte behind it
    obtain ⟨n, hcode⟩ := PaddedUnit.text_append_code ⟨lead, 0⟩ (long 0)
    have hlead' := absent_append_replicate hlead n
    have htext : PaddedUnit.text ⟨lead, 0⟩ = lead := by simp [PaddedUnit.text]
    rw [htext] at hcode
    have hspell : lead ++ PaddedUnit.spell long (u :: us) =
        lead ++ List.replicate n 0 ++ startCode ++
          (u.text ++ PaddedUnit.spell (fun i => long (i + 1)) us) := by
      rw [← hcode, PaddedUnit.spell]
      simp only [List.append_assoc]
    rw [hspell, units_append hlead', PaddedUnit.unitsFrom_spell h]

end Layout

/-! ## Every stream has one layout -/

/-- What stands in front of units is told apart from them. -/
theorem splitAtStartCode_append_spell {before : Bytes} (h : ¬startCode <:+: before)
    (us : List PaddedUnit) :
    splitAtStartCode (before ++ PaddedUnit.spell (fun _ => false) us) =
      (before, us.head?.map fun u => u.text ++ PaddedUnit.spell (fun _ => false) us.tail) := by
  cases us with
  | nil =>
    rw [PaddedUnit.spell, List.append_nil, splitAtStartCode_of_absent h]
    rfl
  | cons u us =>
    have hspell : before ++ PaddedUnit.spell (fun _ => false) (u :: us) =
        before ++ startCode ++ (u.text ++ PaddedUnit.spell (fun _ => false) us) := by
      rw [PaddedUnit.spell]
      simp only [List.append_assoc]
      rfl
    rw [hspell, splitAtStartCode_append h]
    rfl

theorem eq_of_append_spell_eq {before before' : Bytes} {us us' : List PaddedUnit}
    (hno : ¬startCode <:+: before) (hno' : ¬startCode <:+: before')
    (h : before ++ PaddedUnit.spell (fun _ => false) us =
      before' ++ PaddedUnit.spell (fun _ => false) us') :
    before = before' ∧
      us.head?.map (fun u => u.text ++ PaddedUnit.spell (fun _ => false) us.tail) =
        us'.head?.map fun u => u.text ++ PaddedUnit.spell (fun _ => false) us'.tail := by
  have hsplit := congrArg splitAtStartCode h
  rw [splitAtStartCode_append_spell hno, splitAtStartCode_append_spell hno'] at hsplit
  exact Prod.mk.inj hsplit

namespace PaddedUnit

theorem eq_of_text_eq {u v : PaddedUnit} (htext : u.text = v.text) (hbytes : u.bytes = v.bytes) :
    u = v := by
  obtain ⟨bytes, m⟩ := u
  obtain ⟨_, n⟩ := v
  cases hbytes
  have hzeros : List.replicate m (0 : UInt8) = List.replicate n 0 := List.append_cancel_left htext
  have hlength := congrArg List.length hzeros
  rw [List.length_replicate, List.length_replicate] at hlength
  rw [hlength]

theorem text_absent {u : PaddedUnit} {us : List PaddedUnit} (h : WellPadded (u :: us)) :
    ¬startCode <:+: u.text :=
  absent_append_replicate (h.absent u List.mem_cons_self) u.padding

/-- Units that are written alike are the same. -/
theorem spell_inj {u v : PaddedUnit} {us vs : List PaddedUnit} (hu : WellPadded (u :: us))
    (hv : WellPadded (v :: vs))
    (h : u.text ++ spell (fun _ => false) us = v.text ++ spell (fun _ => false) vs) :
    u :: us = v :: vs := by
  induction us generalizing u v vs with
  | nil =>
    obtain ⟨htext, hafter⟩ := eq_of_append_spell_eq (text_absent hu) (text_absent hv) h
    cases vs with
    | nil =>
      have hpadding : ∀ {w : PaddedUnit}, WellPadded [w] → w.text = w.bytes := fun hw => by
        simp [text, (WellPadded.singleton_iff.1 hw).2]
      rw [eq_of_text_eq htext (by rw [← hpadding hu, htext, hpadding hv])]
    | cons v' vs => cases hafter
  | cons u' us ih =>
    obtain ⟨htext, hafter⟩ := eq_of_append_spell_eq (text_absent hu) (text_absent hv) h
    cases vs with
    | nil => cases hafter
    | cons v' vs =>
      obtain ⟨⟨-, hlast⟩, hu'⟩ := WellPadded.cons_cons_iff.1 hu
      obtain ⟨⟨-, hlast'⟩, hv'⟩ := WellPadded.cons_cons_iff.1 hv
      have hbytes := congrArg trimPadding htext
      rw [text, text, trimPadding_append_replicate hlast,
        trimPadding_append_replicate hlast'] at hbytes
      rw [eq_of_text_eq htext hbytes, ih hu' hv' (Option.some.inj hafter)]

/-- What stands behind a start code can be taken apart into units. -/
theorem exists_spell_eq (data : Bytes) :
    ∃ u us, WellPadded (u :: us) ∧ u.text ++ spell (fun _ => false) us = data := by
  fun_induction unitsFrom data with
  | case1 data unit h =>
    obtain ⟨rfl, hno⟩ := eq_of_splitAtStartCode_none h
    refine ⟨⟨unit, 0⟩, [], WellPadded.singleton_iff.2 ⟨hno, rfl⟩, ?_⟩
    simp [text, spell]
  | case2 data unit rest h ih =>
    obtain ⟨rfl, hno⟩ := eq_of_splitAtStartCode_some h
    obtain ⟨v, us, hus, rfl⟩ := ih
    obtain ⟨n, hn⟩ := exists_eq_trimPadding_append unit
    have hno' : ¬startCode <:+: trimPadding unit := fun hi =>
      hno (hi.trans (hn ▸ List.prefix_append _ _).isInfix)
    refine ⟨⟨trimPadding unit, n⟩, v :: us,
      WellPadded.cons_cons_iff.2 ⟨⟨hno', getLast?_trimPadding unit⟩, hus⟩, ?_⟩
    rw [text, ← hn, spell]
    simp only [List.append_assoc]
    rfl

end PaddedUnit

namespace Layout

/-- A stream has one layout. -/
theorem unique {l l' : Layout} (h : l.text = l'.text) : l = l' := by
  obtain ⟨lead, us, hlead, hus⟩ := l
  obtain ⟨lead', us', hlead', hus'⟩ := l'
  obtain ⟨rfl, hafter⟩ := eq_of_append_spell_eq hlead hlead' h
  refine Layout.ext rfl ?_
  match us, us', hus, hus', hafter with
  | [], [], _, _, _ => rfl
  | [], _ :: _, _, _, hafter => cases hafter
  | _ :: _, [], _, _, hafter => cases hafter
  | u :: us, u' :: us', hus, hus', hafter =>
    exact PaddedUnit.spell_inj hus hus' (Option.some.inj hafter)

theorem exists_text_eq (data : Bytes) : ∃ l : Layout, l.text = data := by
  obtain ⟨-, hno⟩ | ⟨lead, after, -, rfl, hno⟩ := splitAtStartCode_cases data
  · exact ⟨⟨data, [], hno, .nil⟩, List.append_nil data⟩
  · obtain ⟨u, us, hus, rfl⟩ := PaddedUnit.exists_spell_eq after
    refine ⟨⟨lead, u :: us, hno, hus⟩, ?_⟩
    simp only [text, write, PaddedUnit.spell, List.append_assoc]
    rfl

theorem length_units_le (l : Layout) : 3 * l.units.length ≤ l.text.length := by
  have hspell : ∀ us : List PaddedUnit,
      3 * us.length ≤ (PaddedUnit.spell (fun _ => false) us).length := by
    intro us
    induction us with
    | nil => exact Nat.le_refl _
    | cons u us ih =>
      simp only [PaddedUnit.spell, code, startCode, List.length_append, List.length_cons,
        Bool.false_eq_true, if_false]
      omega
  rw [text, write, List.length_append]
  exact Nat.le_add_left_of_le (hspell l.units)

end Layout

/-- **The units of a stream.** Any bytes have exactly one layout, and the units that are read are
those of this layout, so that there are at most a third as many as bytes; there are none exactly if
the bytes have no start code, and then all of them are the lead. What is written from a layout, with
start codes of three or of four bytes, has the units of the layout. -/
theorem units_layout :
    (∀ data : Bytes, ∃ l : Layout, l.text = data ∧ (∀ l' : Layout, l'.text = data → l' = l) ∧
        units data = l.units.map PaddedUnit.bytes ∧ 3 * (units data).length ≤ data.length ∧
        (l.units = [] ∧ l.lead = data ↔ ¬startCode <:+: data)) ∧
      ∀ (l : Layout) (long : Nat → Bool),
        units (l.write long) = l.units.map PaddedUnit.bytes := by
  refine ⟨fun data => ?_, Layout.units_write⟩
  obtain ⟨l, rfl⟩ := Layout.exists_text_eq data
  have hunits : units l.text = l.units.map PaddedUnit.bytes := l.units_write _
  refine ⟨l, rfl, fun l' h => Layout.unique h, hunits, ?_, ?_, fun hno => ?_⟩
  · rw [hunits, List.length_map]
    exact l.length_units_le
  · rintro ⟨-, hlead⟩
    exact hlead ▸ l.lead_absent
  · rw [units_of_absent hno] at hunits
    have hnil : l.units = [] := List.map_eq_nil_iff.1 hunits.symm
    refine ⟨hnil, ?_⟩
    rw [Layout.text, Layout.write, hnil, PaddedUnit.spell, List.append_nil]

end VideoReceiver.AnnexB
