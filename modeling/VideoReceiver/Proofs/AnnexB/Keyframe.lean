import VideoReceiver.Proofs.AnnexB.Layout

/-!
# The first keyframe of a stream

A keyframe is found unit by unit. It could as well be found byte by byte: at the first position at
which a start code is followed by the header of a keyframe. A header that is lost with the padding
of its unit, or that is the beginning of the next start code, is zero, and no keyframe has that
header.

## Main definitions

- `AnnexB.leading`: the keyframe that begins a sequence of bytes
- `AnnexB.KeyframeAt`: a start code and the header of a keyframe stand at a position
- `AnnexB.FirstKeyframe`: they stand there and at no position in front of it

## Main statements

- `AnnexB.findKeyframe_eq_scanKeyframe`: the units and the bytes tell the same
- `AnnexB.findKeyframe_law`: the keyframe that is found is the one at the first position
-/

namespace VideoReceiver.AnnexB

variable (codec : Codec)

/-- The type of a keyframe whose header is the first byte. -/
def leading : Bytes → Option UInt8
  | [] => none
  | header :: _ =>
    if codec.isKeyframe (codec.nalType header) then some (codec.nalType header) else none

/-- No keyframe has the header zero. -/
theorem leading_zero_cons (rest : Bytes) : leading codec (0 :: rest) = none := by
  cases codec <;> rfl

/-- Only a header of zero is lost with the padding. -/
theorem leading_trimPadding (unit : Bytes) :
    leading codec (trimPadding unit) = leading codec unit := by
  obtain ⟨n, hn⟩ := exists_eq_trimPadding_append unit
  generalize trimPadding unit = trimmed at hn
  subst hn
  rcases trimmed with _ | ⟨header, trimmed⟩
  · cases n with
    | zero => rfl
    | succ n => exact (leading_zero_cons codec (List.replicate n 0)).symm
  · rfl

theorem leading_append_startCode (unit rest : Bytes) :
    leading codec (unit ++ startCode ++ rest) = leading codec unit := by
  cases unit with
  | nil => exact leading_zero_cons codec (0 :: 1 :: rest)
  | cons header unit => rfl

/-! ## Scanning -/

theorem scanKeyframe_cons {b : UInt8} {rest : Bytes} (h : ¬startCode <+: b :: rest) :
    scanKeyframe codec (b :: rest) = scanKeyframe codec rest := by
  rw [scanKeyframe]
  rintro header after rfl rfl
  exact h ⟨header :: after, rfl⟩

theorem scanKeyframe_of_absent {data : Bytes} (h : ¬startCode <:+: data) :
    scanKeyframe codec data = none := by
  induction data with
  | nil => rfl
  | cons b rest ih =>
    rw [scanKeyframe_cons codec fun hp => h hp.isInfix, ih fun hi => h (List.infix_cons hi)]

/-- No start code begins within another one. -/
theorem scanKeyframe_within (rest : Bytes) :
    scanKeyframe codec (0 :: 1 :: rest) = scanKeyframe codec rest := by
  rw [scanKeyframe_cons codec (by simp [startCode]), scanKeyframe_cons codec (by simp [startCode])]

/-- The scan finds the header behind a start code, or goes on behind it. -/
theorem scanKeyframe_startCode_append (rest : Bytes) :
    scanKeyframe codec (startCode ++ rest) =
      (leading codec rest).or (scanKeyframe codec rest) := by
  cases rest with
  | nil => rfl
  | cons header rest =>
    change scanKeyframe codec (0 :: 0 :: 1 :: header :: rest) = _
    rw [scanKeyframe]
    by_cases hkey : codec.isKeyframe (codec.nalType header) = true
    · simp [leading, hkey]
    · simp [leading, hkey, scanKeyframe_within]

theorem scanKeyframe_append {before : Bytes} (h : ¬startCode <:+: before) (rest : Bytes) :
    scanKeyframe codec (before ++ startCode ++ rest) =
      (leading codec rest).or (scanKeyframe codec rest) := by
  induction before with
  | nil => exact scanKeyframe_startCode_append codec rest
  | cons b before ih =>
    rw [List.cons_append, List.cons_append, scanKeyframe_cons codec (not_prefix_of_absent h rest),
      ih fun hi => h (List.infix_cons hi)]

/-! ## Units -/

/-- The first keyframe among units. -/
theorem find?_filterMap_cons (unit : Bytes) (us : List Bytes) :
    ((unit :: us).filterMap fun u => u.head?.map codec.nalType).find? codec.isKeyframe =
      (leading codec unit).or
        ((us.filterMap fun u => u.head?.map codec.nalType).find? codec.isKeyframe) := by
  cases unit with
  | nil => rfl
  | cons header unit =>
    by_cases hkey : codec.isKeyframe (codec.nalType header) = true <;> simp [leading, hkey]

theorem find?_unitsFrom (data : Bytes) :
    ((unitsFrom data).filterMap fun u => u.head?.map codec.nalType).find? codec.isKeyframe =
      (leading codec data).or (scanKeyframe codec data) := by
  fun_induction unitsFrom data with
  | case1 data unit h =>
    obtain ⟨rfl, hno⟩ := eq_of_splitAtStartCode_none h
    rw [find?_filterMap_cons, scanKeyframe_of_absent codec hno]
    rfl
  | case2 data unit rest h ih =>
    obtain ⟨rfl, hno⟩ := eq_of_splitAtStartCode_some h
    rw [find?_filterMap_cons, ih, leading_trimPadding, leading_append_startCode,
      scanKeyframe_append codec hno]

/-- The units and the bytes tell the same. -/
theorem findKeyframe_eq_scanKeyframe (data : Bytes) :
    findKeyframe codec data = scanKeyframe codec data := by
  obtain ⟨-, hno⟩ | ⟨lead, rest, -, rfl, hno⟩ := splitAtStartCode_cases data
  · rw [findKeyframe, nalTypes, units_of_absent hno, scanKeyframe_of_absent codec hno]
    rfl
  · rw [findKeyframe, nalTypes, units_append hno, find?_unitsFrom, scanKeyframe_append codec hno]

/-! ## Positions -/

/-- At position `i` stands a start code, and behind it the header of a keyframe of type `t`. -/
structure KeyframeAt (data : Bytes) (i : Nat) (t : UInt8) : Prop where
  startCode_eq : (data.drop i).take 3 = [0, 0, 1]
  header : ∃ header, data[i + 3]? = some header ∧ codec.nalType header = t
  isKeyframe : codec.isKeyframe t = true

theorem keyframeAt_succ_iff {b : UInt8} {rest : Bytes} {i : Nat} {t : UInt8} :
    KeyframeAt codec (b :: rest) (i + 1) t ↔ KeyframeAt codec rest i t :=
  ⟨fun ⟨hcode, hheader, hkey⟩ => ⟨hcode, hheader, hkey⟩,
    fun ⟨hcode, hheader, hkey⟩ => ⟨hcode, hheader, hkey⟩⟩

theorem keyframeAt_zero_iff {rest : Bytes} {t : UInt8} :
    KeyframeAt codec (startCode ++ rest) 0 t ↔ leading codec rest = some t := by
  constructor
  · rintro ⟨-, ⟨header, hheader, rfl⟩, hkey⟩
    cases rest with
    | nil => cases hheader
    | cons first rest =>
      cases hheader
      exact if_pos hkey
  · intro h
    cases rest with
    | nil => cases h
    | cons header rest =>
      rw [leading] at h
      split at h
      · next hkey =>
        cases h
        exact ⟨rfl, ⟨header, rfl, rfl⟩, hkey⟩
      · cases h

namespace KeyframeAt

variable {codec} {data : Bytes} {i : Nat} {t t' : UInt8}

theorem startCode_prefix (h : KeyframeAt codec data 0 t) : startCode <+: data :=
  ⟨data.drop 3, by rw [startCode, ← h.startCode_eq]; exact List.take_append_drop 3 data⟩

theorem type_eq (h : KeyframeAt codec data i t) (h' : KeyframeAt codec data i t') : t = t' := by
  obtain ⟨header, hheader, rfl⟩ := h.header
  obtain ⟨header', hheader', rfl⟩ := h'.header
  rw [Option.some.inj (hheader.symm.trans hheader')]

end KeyframeAt

/-- A keyframe stands at a position, and none in front of it. -/
def FirstKeyframe (data : Bytes) (t : UInt8) : Prop :=
  ∃ i, KeyframeAt codec data i t ∧ ∀ j < i, ∀ t', ¬KeyframeAt codec data j t'

theorem FirstKeyframe.type_eq {codec : Codec} {data : Bytes} {t t' : UInt8}
    (h : FirstKeyframe codec data t) (h' : FirstKeyframe codec data t') : t = t' := by
  obtain ⟨i, hi, hno⟩ := h
  obtain ⟨i', hi', hno'⟩ := h'
  rcases Nat.lt_trichotomy i i' with hlt | rfl | hlt
  · exact absurd hi (hno' i hlt t)
  · exact hi.type_eq hi'
  · exact absurd hi' (hno i' hlt t')

/-- The scan looks at the first position, and then at the others. -/
theorem scanKeyframe_cons_cases (b : UInt8) (rest : Bytes) :
    (∃ t, KeyframeAt codec (b :: rest) 0 t ∧ scanKeyframe codec (b :: rest) = some t) ∨
      (∀ t, ¬KeyframeAt codec (b :: rest) 0 t) ∧
        scanKeyframe codec (b :: rest) = scanKeyframe codec rest := by
  by_cases hp : startCode <+: b :: rest
  · obtain ⟨after, hafter⟩ := hp
    cases hafter
    have hscan : scanKeyframe codec (0 :: 0 :: 1 :: after) =
        (leading codec after).or (scanKeyframe codec (0 :: 1 :: after)) := by
      rw [scanKeyframe_within]
      exact scanKeyframe_startCode_append codec after
    rcases hlead : leading codec after with _ | t
    · refine .inr ⟨fun t h => ?_, ?_⟩
      · rw [(keyframeAt_zero_iff codec).1 h] at hlead
        cases hlead
      · exact hscan.trans (by rw [hlead, Option.none_or]; rfl)
    · refine .inl ⟨t, (keyframeAt_zero_iff codec).2 hlead, ?_⟩
      exact hscan.trans (by rw [hlead, Option.some_or])
  · exact .inr ⟨fun t h => hp h.startCode_prefix, scanKeyframe_cons codec hp⟩

/-- The scan finds the first keyframe, if there is one. -/
theorem scanKeyframe_cases (data : Bytes) :
    (∃ t, scanKeyframe codec data = some t ∧ FirstKeyframe codec data t) ∨
      scanKeyframe codec data = none ∧ ∀ i t, ¬KeyframeAt codec data i t := by
  induction data with
  | nil => exact .inr ⟨rfl, fun i t h => by simpa using h.startCode_eq⟩
  | cons b rest ih =>
    obtain ⟨t, hhere, hscan⟩ | ⟨hno, hscan⟩ := scanKeyframe_cons_cases codec b rest
    · exact .inl ⟨t, hscan, 0, hhere, fun j hj => absurd hj (Nat.not_lt_zero j)⟩
    rw [hscan]
    obtain ⟨t, hrest, i, hi, hbefore⟩ | ⟨hrest, hnone⟩ := ih
    · refine .inl ⟨t, hrest, i + 1, (keyframeAt_succ_iff codec).2 hi, fun j hj t' h => ?_⟩
      cases j with
      | zero => exact hno t' h
      | succ j => exact hbefore j (Nat.lt_of_succ_lt_succ hj) t' ((keyframeAt_succ_iff codec).1 h)
    · refine .inr ⟨hrest, fun i t h => ?_⟩
      cases i with
      | zero => exact hno t h
      | succ i => exact hnone i t ((keyframeAt_succ_iff codec).1 h)

/-- **The first keyframe.** The keyframe that is found is the one at the first position at which a
start code stands and the header of a keyframe behind it; none is found exactly if there is no such
position. -/
theorem findKeyframe_law (data : Bytes) :
    (∀ t, findKeyframe codec data = some t ↔ FirstKeyframe codec data t) ∧
      (findKeyframe codec data = none ↔ ∀ i t, ¬KeyframeAt codec data i t) := by
  rw [findKeyframe_eq_scanKeyframe]
  obtain ⟨t, hscan, hfirst⟩ | ⟨hscan, hno⟩ := scanKeyframe_cases codec data
  · obtain ⟨i, hi, -⟩ := id hfirst
    refine ⟨fun t' => ⟨fun h => ?_, fun h => ?_⟩, ?_⟩
    · rwa [← Option.some.inj (hscan.symm.trans h)]
    · rw [hscan, hfirst.type_eq h]
    · rw [hscan]
      exact iff_of_false nofun fun h => h i t hi
  · refine ⟨fun t => ?_, iff_of_true hscan hno⟩
    rw [hscan]
    exact iff_of_false nofun fun ⟨i, hi, _⟩ => hno i t hi

end VideoReceiver.AnnexB
