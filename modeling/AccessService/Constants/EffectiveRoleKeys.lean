/-
  AccessService.Constants.EffectiveRoleKeys

  Which grants `GenerateUserEffectiveRoleKey` can tell apart: the key writes a missing scope
  entity as a text that an entity can have as well.
-/

import AccessService.Constants.Keys

namespace AccessService.Constants

/-- The entry that the key is made of. -/
structure EffectiveRoleEntry where
  roleId : String
  sourceGroupId : String
  scopeType : String
  scopeEntityId : Option String
  deriving DecidableEq

namespace EffectiveRoleEntry

def key (entry : EffectiveRoleEntry) : String :=
  GenerateUserEffectiveRoleKey entry.roleId entry.sourceGroupId entry.scopeType
    entry.scopeEntityId

/-- The scope entity, where `undefined`, `null` and the empty text are no entity. -/
def scopeEntity (entry : EffectiveRoleEntry) : Option String :=
  entry.scopeEntityId.filter (· ≠ "")

/-- What stands before the scope entity has no colon. -/
structure ColonFree (entry : EffectiveRoleEntry) : Prop where
  roleId : ':' ∉ entry.roleId.toList
  sourceGroupId : ':' ∉ entry.sourceGroupId.toList
  scopeType : ':' ∉ entry.scopeType.toList

/-- The role comes from the same group with the same type of scope. -/
structure SameRole (entry other : EffectiveRoleEntry) : Prop where
  roleId : entry.roleId = other.roleId
  sourceGroupId : entry.sourceGroupId = other.sourceGroupId
  scopeType : entry.scopeType = other.scopeType

structure SameGrant (entry other : EffectiveRoleEntry) : Prop
    extends SameRole entry other where
  scopeEntity : entry.scopeEntity = other.scopeEntity

/-- One entry has no scope entity, the other has the entity `"null"`. -/
def NullTextBesideNone (entry other : EffectiveRoleEntry) : Prop :=
  (entry.scopeEntity = none ∧ other.scopeEntity = some "null") ∨
    (entry.scopeEntity = some "null" ∧ other.scopeEntity = none)

variable {entry other : EffectiveRoleEntry}

theorem orNullText_eq (scopeEntityId : Option String) :
    orNullText scopeEntityId = (scopeEntityId.filter (· ≠ "")).getD "null" := by
  rcases scopeEntityId with _ | text
  · rfl
  · by_cases htext : text = ""
    · subst htext
      rfl
    · have hpresent : (some text).filter (· ≠ "") = some text := by simp [htext]
      rw [hpresent, orNullText, if_neg htext, Option.getD_some]

/-- Two entities are written alike when they are the same, or when one is missing and the
    other is the text for that. -/
theorem getD_null_eq_iff {a b : Option String} :
    a.getD "null" = b.getD "null" ↔
      a = b ∨ (a = none ∧ b = some "null") ∨ (a = some "null" ∧ b = none) := by
  rcases a with _ | a
  · rcases b with _ | b
    · simp
    · simp [eq_comm (a := "null")]
  · rcases b with _ | b
    · simp
    · simp

theorem key_eq_iff (hentry : ColonFree entry) (hother : ColonFree other) :
    entry.key = other.key ↔
      SameRole entry other ∧
        (entry.scopeEntity = other.scopeEntity ∨ NullTextBesideNone entry other) := by
  have hkey : entry.key = other.key ↔
      entry.roleId = other.roleId ∧ entry.sourceGroupId = other.sourceGroupId ∧
        entry.scopeType = other.scopeType ∧
        orNullText entry.scopeEntityId = orNullText other.scopeEntityId :=
    GenerateUserEffectiveRoleKey_eq hentry.roleId hother.roleId hentry.sourceGroupId
      hother.sourceGroupId hentry.scopeType hother.scopeType
  rw [orNullText_eq, orNullText_eq, getD_null_eq_iff] at hkey
  refine hkey.trans ⟨fun ⟨hrole, hgroup, htype, hscope⟩ => ⟨⟨hrole, hgroup, htype⟩, hscope⟩, ?_⟩
  exact fun ⟨hsame, hscope⟩ => ⟨hsame.roleId, hsame.sourceGroupId, hsame.scopeType, hscope⟩

/-- The key identifies the grant, unless the role is the same and only the text of the scope
    entity is that of a missing one. -/
theorem key_identifies_iff (hentry : ColonFree entry) (hother : ColonFree other) :
    (entry.key = other.key ↔ SameGrant entry other) ↔
      ¬(SameRole entry other ∧ NullTextBesideNone entry other) := by
  have hdifferent : NullTextBesideNone entry other → ¬SameGrant entry other := by
    rintro (⟨hnone, hnull⟩ | ⟨hnull, hnone⟩) hgrant
    · exact absurd (hnone.symm.trans (hgrant.scopeEntity.trans hnull)) (by decide)
    · exact absurd (hnone.symm.trans (hgrant.scopeEntity.symm.trans hnull)) (by decide)
  rw [key_eq_iff hentry hother]
  constructor
  · rintro hiff ⟨hsame, hnull⟩
    exact hdifferent hnull (hiff.mp ⟨hsame, .inr hnull⟩)
  · intro hnever
    constructor
    · rintro ⟨hsame, hscope | hnull⟩
      · exact ⟨hsame, hscope⟩
      · exact absurd ⟨hsame, hnull⟩ hnever
    · exact fun hgrant => ⟨hgrant.toSameRole, .inl hgrant.scopeEntity⟩

/-- A grant that a group has at no entity, and one at the entity with the text `"null"`. -/
def unscopedGrant : EffectiveRoleEntry := ⟨"r1", "g1", "LOCATION", none⟩

def nullTextGrant : EffectiveRoleEntry := ⟨"r1", "g1", "LOCATION", some "null"⟩

theorem colonFree_unscopedGrant : ColonFree unscopedGrant :=
  ⟨by decide, by decide, by decide⟩

theorem key_identifies_unscoped :
    (unscopedGrant.key = { unscopedGrant with scopeEntityId := some "" }.key ↔
      SameGrant unscopedGrant { unscopedGrant with scopeEntityId := some "" }) ↔
    ¬(SameRole unscopedGrant { unscopedGrant with scopeEntityId := some "" } ∧
      NullTextBesideNone unscopedGrant { unscopedGrant with scopeEntityId := some "" }) :=
  key_identifies_iff colonFree_unscopedGrant ⟨by decide, by decide, by decide⟩

theorem keys_collide :
    ColonFree unscopedGrant ∧ ColonFree nullTextGrant ∧
      ¬(unscopedGrant.key = nullTextGrant.key ↔ SameGrant unscopedGrant nullTextGrant) := by
  refine ⟨colonFree_unscopedGrant, ⟨by decide, by decide, by decide⟩, fun hiff => ?_⟩
  have hgrant := hiff.mp (by decide)
  exact absurd hgrant.scopeEntity (by decide)

end EffectiveRoleEntry

end AccessService.Constants
