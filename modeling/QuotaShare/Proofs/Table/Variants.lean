import QuotaShare.Proofs.Manager.Verdict

/-!
# Variants of a table

A qualified name is its raw name with the suffix of its variant, and an unqualified name stands for
the two qualified names of which it is the raw name.  The variants of a table are each other's
sibling as long as their raw name is not a qualified name itself: the suffix of the other variant is
appended to a raw name only if it is not there yet.
-/

namespace QuotaShare

/-! ### Raw names -/

theorem rawName_append (v : Variant) (raw : String) :
  rawName (raw ++ v.suffix) = raw
  := by
  rw [rawName, v.ofName?_append]
  simp only [String.length_append, Nat.add_sub_cancel, String.toList_append]
  rw [← String.length_toList, List.take_left, String.ofList_toList]

/-- A name is qualified with a variant exactly if it is its raw name with the variant's suffix. -/
theorem Variant.ofName?_eq_some_iff_append {v : Variant} {name : String} :
  ofName? name = some v ↔ name = rawName name ++ v.suffix
  := by
  constructor
  · intro h
    obtain ⟨raw, hraw⟩ := marks_iff.mp (ofName?_eq_some_iff.mp h)
    have hname : name = String.ofList raw ++ v.suffix := by
      apply String.toList_inj.mp
      rw [String.toList_append, String.toList_ofList, hraw]
    rw [hname, rawName_append]
  · intro h
    rw [h]
    apply v.ofName?_append

theorem Variant.length_suffix_pos (v : Variant) :
  0 < v.suffix.length
  := by
  cases v <;> decide

/-- The raw name of a qualified name is shorter. -/
theorem length_rawName_lt {v : Variant} {name : String} (h : Variant.ofName? name = some v) :
  (rawName name).length < name.length
  := by
  have hlength := congrArg String.length (Variant.ofName?_eq_some_iff_append.mp h)
  rw [String.length_append] at hlength
  have hsuffix := v.length_suffix_pos
  omega

/-! ### Names of siblings -/

namespace Variant

theorem sibling_sibling (v : Variant) :
  v.sibling.sibling = v
  := by
  cases v <;> rfl

/-- Each variant is a given one or its sibling. -/
theorem eq_or_eq_sibling (v w : Variant) :
  w = v ∨ w = v.sibling
  := by
  cases v <;> cases w <;> decide

theorem ofName?_qualify (v : Variant) (raw : String) :
  ofName? (v.qualify raw) = some v
  := by
  by_cases h : ofName? raw = some v
  · rw [qualify_of_eq h, h]
  · rw [qualify_of_ne h, ofName?_append]

/-- A name is the raw name of what it becomes, unless it stays as it is. -/
theorem rawName_qualify_eq_iff (v : Variant) (raw : String) :
  rawName (v.qualify raw) = raw ↔ ofName? raw ≠ some v
  := by
  by_cases h : ofName? raw = some v
  · rw [qualify_of_eq h]
    apply iff_of_false _ fun hne => hne h
    intro heq
    have hlt := length_rawName_lt h
    rw [heq] at hlt
    apply Nat.lt_irrefl _ hlt
  · rw [qualify_of_ne h, rawName_append]
    exact iff_of_true rfl h

theorem length_qualify_le (v : Variant) (raw : String) :
  (v.qualify raw).length ≤ raw.length + v.suffix.length
  := by
  by_cases h : ofName? raw = some v
  · rw [qualify_of_eq h]
    apply Nat.le_add_right
  · rw [qualify_of_ne h]
    apply Nat.le_of_eq (String.length_append ..)

/-- The sibling of a sibling is the table itself exactly if its raw name is not qualified. -/
theorem qualify_rawName_qualify_eq_iff (v : Variant) (raw : String) :
  v.qualify (rawName (v.sibling.qualify raw)) = raw ++ v.suffix ↔ ofName? raw = none
  := by
  cases h : ofName? raw with
  | none =>
      have hne (w : Variant) : ofName? raw ≠ some w := by
        rw [h]
        apply (Option.some_ne_none w).symm
      rw [(v.sibling.rawName_qualify_eq_iff raw).mpr (hne _), qualify_of_ne (hne v)]
      exact iff_of_true rfl rfl
  | some w =>
      -- A suffix is not appended where there is one already, so the name is too short.
      have hlt : (v.qualify (rawName (v.sibling.qualify raw))).length < (raw ++ v.suffix).length := by
        rw [String.length_append]
        obtain rfl | rfl := v.eq_or_eq_sibling w
        · have hraw : rawName (w.sibling.qualify raw) = raw := by
            apply (w.sibling.rawName_qualify_eq_iff raw).mpr
            rw [h]
            cases w <;> decide
          rw [hraw, qualify_of_eq h]
          apply Nat.lt_add_of_pos_right w.length_suffix_pos
        · rw [qualify_of_eq h]
          apply Nat.lt_of_le_of_lt (v.length_qualify_le (rawName raw))
          apply Nat.add_lt_add_right (length_rawName_lt h)
      apply iff_of_false _ nofun
      intro heq
      rw [heq] at hlt
      apply Nat.lt_irrefl _ hlt

end Variant

/-! ### Different quotas -/

namespace Manager

/-- Whether a registration reports that the other variant of the table has another quota. -/
def Warns (lookups : Lookups) (config : TableConfig) : Prop :=
  ∃ raw own theirs variant,
    .siblingDiffers raw own theirs variant ∈ (compareVariants lookups config).events

theorem value_siblingQuota (lookups : Lookups) (sibling : String) :
  (siblingQuota lookups sibling).value = (lookups.quota sibling).toOption.join
  := by
  rw [siblingQuota]
  cases lookups.quota sibling <;> rfl

theorem siblingDiffers_not_mem_siblingQuota (lookups : Lookups) (sibling raw own theirs : String)
    (variant : Variant) :
  .siblingDiffers raw own theirs variant ∉ (siblingQuota lookups sibling).events
  := by
  rw [siblingQuota]
  cases lookups.quota sibling <;> simp

/-- It is reported when both quotas are found and are not the same text. -/
theorem warns_iff {lookups : Lookups} {config : TableConfig} :
  Warns lookups config ↔ ∃ other own theirs, siblingName? config.table = some other ∧
    config.quota.bind Quota.raw? = some own ∧
    (lookups.quota other).toOption.join.bind Quota.raw? = some theirs ∧ theirs ≠ own
  := by
  rw [Warns, compareVariants, siblingName?]
  cases Variant.ofName? config.table with
  | none => simp
  | some variant =>
      cases config.quota.bind Quota.raw? with
      | none => simp
      | some own =>
          simp only [Traced.events_bind, value_siblingQuota, List.mem_append,
            siblingDiffers_not_mem_siblingQuota, false_or, Option.map_some]
          constructor
          · rintro ⟨raw, own', theirs, variant', hmem⟩
            cases htheirs : (lookups.quota (variant.sibling.qualify
                (rawName config.table))).toOption.join.bind Quota.raw? with
            | none =>
                rw [htheirs] at hmem
                cases hmem
            | some other =>
                rw [htheirs] at hmem
                simp only at hmem
                split at hmem
                · rename_i hne
                  exact ⟨_, own, other, rfl, rfl, htheirs, hne⟩
                · cases hmem
          · rintro ⟨other, own', theirs, hother, hown, htheirs, hne⟩
            cases hother
            cases hown
            rw [htheirs]
            simp only [if_pos hne]
            exact ⟨_, _, _, _, List.mem_cons_self⟩

/-- Two tables that are each other's siblings are both reported or none of them is. -/
theorem warns_iff_warns {lookups : Lookups} {name other : String} {quota quota' : Option Quota}
    (hother : siblingName? name = some other) (hname : siblingName? other = some name)
    (hquota : lookups.quota name = .ok quota) (hquota' : lookups.quota other = .ok quota') :
  Warns lookups ⟨name, quota⟩ ↔ Warns lookups ⟨other, quota'⟩
  := by
  rw [warns_iff, warns_iff, hother, hname]
  simp only [Option.some.injEq, exists_and_left, exists_eq_left', hquota, hquota', Except.toOption]
  constructor
  · rintro ⟨own, hown, theirs, htheirs, hne⟩
    exact ⟨theirs, htheirs, own, hown, hne.symm⟩
  · rintro ⟨own, hown, theirs, htheirs, hne⟩
    exact ⟨theirs, htheirs, own, hown, hne.symm⟩

end Manager

/-! ### Siblings -/

/-- The sibling of a qualified table, with whose quota that of the table is compared, is qualified
with the other variant.  It has the same raw name, unless this name has the suffix of the other
variant already, and the table is the sibling's sibling exactly if this name is not qualified: then
different quotas of the two are reported for both of them or for none. -/
theorem sibling_of_qualified {name : String} {v : Variant} (h : Variant.ofName? name = some v) :
  ∃ other, siblingName? name = some other ∧ Variant.ofName? other = some v.sibling ∧
    (rawName other = rawName name ↔ Variant.ofName? (rawName name) ≠ some v.sibling) ∧
    (siblingName? other = some name ↔ Variant.ofName? (rawName name) = none) ∧
    (Variant.ofName? (rawName name) = none → ∀ lookups quota quota',
      lookups.quota name = .ok quota → lookups.quota other = .ok quota' →
      (Manager.Warns lookups ⟨name, quota⟩ ↔ Manager.Warns lookups ⟨other, quota'⟩))
  := by
  have hother : siblingName? name = some (v.sibling.qualify (rawName name)) := by
    rw [siblingName?, h]
    rfl
  have hvariant := v.sibling.ofName?_qualify (rawName name)
  have hback : siblingName? (v.sibling.qualify (rawName name)) = some name ↔
      Variant.ofName? (rawName name) = none := by
    rw [siblingName?, hvariant, Option.map_some, Option.some.injEq, v.sibling_sibling,
      ← v.qualify_rawName_qualify_eq_iff, ← Variant.ofName?_eq_some_iff_append.mp h]
  refine ⟨_, hother, hvariant, v.sibling.rawName_qualify_eq_iff (rawName name), hback, ?_⟩
  intro hraw lookups quota quota' hquota hquota'
  apply Manager.warns_iff_warns hother (hback.mpr hraw) hquota hquota'

/-- The two variants of a table whose name looks almost like a qualified one. -/
theorem sibling_of_offline :
  let name := "_OFFLINE_REALTIM_OFFLINE"
  let other := "_OFFLINE_REALTIM_REALTIME"
  let store := Store.ofConfigs [⟨name, some ⟨some "5"⟩⟩, ⟨other, some ⟨some " 5.0 "⟩⟩]
  Variant.ofName? name = some .offline ∧ siblingName? name = some other ∧
    Variant.ofName? other = some .realtime ∧ rawName other = rawName name ∧
    siblingName? other = some name ∧
    (Manager.Warns store.lookups ⟨name, some ⟨some "5"⟩⟩ ↔
      Manager.Warns store.lookups ⟨other, some ⟨some " 5.0 "⟩⟩) ∧
    Manager.Warns store.lookups ⟨name, some ⟨some "5"⟩⟩
  := by
  intro name other store
  have h : Variant.ofName? name = some .offline := by decide +kernel
  have hraw : Variant.ofName? (rawName name) = none := by decide +kernel
  have hother : siblingName? name = some other := by decide +kernel
  have hquota : store.quota? name = some ⟨some "5"⟩ := by decide +kernel
  have hquota' : store.quota? other = some ⟨some " 5.0 "⟩ := by decide +kernel
  obtain ⟨_, hsibling, hvariant, hrawName, hback, hwarns⟩ := sibling_of_qualified h
  obtain rfl := Option.some.inj (hother.symm.trans hsibling)
  refine ⟨h, hother, hvariant, hrawName.mpr ?_, hback.mpr hraw,
    hwarns hraw _ _ _ (congrArg Except.ok hquota) (congrArg Except.ok hquota'), ?_⟩
  · rw [hraw]
    nofun
  · apply Manager.warns_iff.mpr
    use other, "5", "5.0", hother
    decide +kernel

/-- A raw name that ends in the suffix of the other variant is taken for the name of the sibling, and
a raw name that ends in the suffix of the same variant is not qualified again on the way back. -/
theorem sibling_of_qualified_raw_name :
  Variant.ofName? "t_REALTIME_OFFLINE" = some .offline ∧
    siblingName? "t_REALTIME_OFFLINE" = some "t_REALTIME" ∧
    rawName "t_REALTIME" ≠ rawName "t_REALTIME_OFFLINE" ∧
    siblingName? "t_REALTIME" = some "t_OFFLINE" ∧
    Variant.ofName? "t_OFFLINE_OFFLINE" = some .offline ∧
    siblingName? "t_OFFLINE_OFFLINE" = some "t_OFFLINE_REALTIME" ∧
    siblingName? "t_OFFLINE_REALTIME" = some "t_OFFLINE"
  := by
  decide +kernel

/-! ### The names of a query -/

/-- A query against a qualified name concerns the table of this name alone, and the name is its raw
name with the suffix of its variant.  A query against any other name concerns the two qualified names
that have it as their raw name, one for each variant, and there is no other such name. -/
theorem names_cover_variants (name : String) :
  (∀ v, Variant.ofName? name = some v →
    name = rawName name ++ v.suffix ∧ (Target.resolve name).names = [name]) ∧
  (Variant.ofName? name = none →
    (Target.resolve name).names = [name ++ "_OFFLINE", name ++ "_REALTIME"] ∧
    name ++ "_OFFLINE" ≠ name ++ "_REALTIME" ∧
    Variant.ofName? (name ++ "_OFFLINE") = some .offline ∧
    Variant.ofName? (name ++ "_REALTIME") = some .realtime ∧
    ∀ other, other ∈ (Target.resolve name).names ↔
      (Variant.ofName? other).isSome = true ∧ rawName other = name)
  := by
  constructor
  · intro v h
    use Variant.ofName?_eq_some_iff_append.mp h
    apply Target.names_resolve (Option.isSome_of_eq_some h)
  · intro h
    have hnames := Target.names_resolve_of_unqualified h
    use hnames, Target.append_offline_ne_append_realtime name,
      Variant.ofName?_append .offline name, Variant.ofName?_append .realtime name
    intro other
    rw [hnames, List.mem_cons, List.mem_singleton]
    constructor
    · rintro (rfl | rfl)
      · use Option.isSome_of_eq_some (Variant.ofName?_append .offline name)
        apply rawName_append .offline
      · use Option.isSome_of_eq_some (Variant.ofName?_append .realtime name)
        apply rawName_append .realtime
    · rintro ⟨hqualified, rfl⟩
      obtain ⟨v, hv⟩ := Option.isSome_iff_exists.mp hqualified
      have hother := Variant.ofName?_eq_some_iff_append.mp hv
      cases v with
      | offline => exact .inl hother
      | realtime => exact .inr hother

end QuotaShare
