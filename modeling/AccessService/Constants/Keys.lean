/-
  AccessService.Constants.Keys

  `constants/keys.ts`: the text keys of the authorization module.
-/

import Mathlib.Data.List.Basic

namespace AccessService.Constants

def GenerateUserAuthzVersionKey (tenantCode userId : String) : String :=
  "authz:version:" ++ tenantCode ++ ":" ++ userId

def GenerateAuthzWorkerLockKey (tenantCode : String) : String :=
  "authz:reconciliation-worker:lock:" ++ tenantCode

def GenerateAuthMfaChallengeKey (tenantCode userId challengeId : String) : String :=
  "auth:mfa-challenge:" ++ tenantCode ++ ":" ++ userId ++ ":" ++ challengeId

/-- `scopeEntityId || 'null'`. -/
def orNullText (scopeEntityId : Option String) : String :=
  match scopeEntityId with
  | none => "null"
  | some text => if text = "" then "null" else text

def GenerateUserEffectiveRoleKey (roleId sourceGroupId scopeType : String)
    (scopeEntityId : Option String) : String :=
  roleId ++ ":" ++ sourceGroupId ++ ":" ++ scopeType ++ ":" ++ orNullText scopeEntityId

/-- What stands before the first occurrence of a character. -/
theorem before_first {c : Char} {a a' b b' : List Char} (ha : c ∉ a) (ha' : c ∉ a')
    (h : a ++ c :: b = a' ++ c :: b') : a = a' ∧ b = b' := by
  induction a generalizing a' with
  | nil =>
    cases a' with
    | nil => exact ⟨rfl, (List.cons.inj h).2⟩
    | cons d a' =>
      have hhead : c = d := (List.cons.inj h).1
      exact absurd (hhead ▸ List.mem_cons_self) ha'
  | cons d a ih =>
    cases a' with
    | nil =>
      have hhead : d = c := (List.cons.inj h).1
      exact absurd (hhead ▸ List.mem_cons_self) ha
    | cons d' a' =>
      obtain ⟨hhead, htail⟩ := List.cons.inj h
      have hrest := ih (fun hmem => ha (List.mem_cons_of_mem _ hmem))
        (fun hmem => ha' (List.mem_cons_of_mem _ hmem)) htail
      exact ⟨congrArg₂ List.cons hhead hrest.1, hrest.2⟩

theorem before_colon {a a' b b' : String} (ha : ':' ∉ a.toList) (ha' : ':' ∉ a'.toList)
    (h : a ++ (":" ++ b) = a' ++ (":" ++ b')) : a = a' ∧ b = b' := by
  have htext := congrArg String.toList h
  simp only [String.toList_append] at htext
  obtain ⟨hfront, hback⟩ := before_first ha ha' htext
  exact ⟨String.toList_inj.mp hfront, String.toList_inj.mp hback⟩

theorem after_last_colon {a a' b b' : String} (hb : ':' ∉ b.toList) (hb' : ':' ∉ b'.toList)
    (h : a ++ (":" ++ b) = a' ++ (":" ++ b')) : a = a' ∧ b = b' := by
  have htext := congrArg (fun text => (String.toList text).reverse) h
  have hcolon : ":".toList = [':'] := by simp
  simp only [String.toList_append, hcolon, List.singleton_append, List.reverse_append,
    List.reverse_cons, List.append_assoc] at htext
  obtain ⟨hback, hfront⟩ := before_first (fun hmem => hb (List.mem_reverse.mp hmem))
    (fun hmem => hb' (List.mem_reverse.mp hmem)) htext
  exact ⟨String.toList_inj.mp (List.reverse_inj.mp hfront),
    String.toList_inj.mp (List.reverse_inj.mp hback)⟩

/-- Users and challenges whose ids have no colon have keys of their own, whatever the
    tenant's code is. -/
theorem GenerateAuthMfaChallengeKey_inj {tenantCode tenantCode' userId userId' challengeId
    challengeId' : String} (huser : ':' ∉ userId.toList) (huser' : ':' ∉ userId'.toList)
    (hid : ':' ∉ challengeId.toList) (hid' : ':' ∉ challengeId'.toList)
    (h : GenerateAuthMfaChallengeKey tenantCode userId challengeId =
      GenerateAuthMfaChallengeKey tenantCode' userId' challengeId') :
    tenantCode = tenantCode' ∧ userId = userId' ∧ challengeId = challengeId' := by
  unfold GenerateAuthMfaChallengeKey at h
  generalize "auth:mfa-challenge:" = family at h
  have hkeys : family ++ tenantCode ++ ":" ++ userId ++ (":" ++ challengeId) =
      family ++ tenantCode' ++ ":" ++ userId' ++ (":" ++ challengeId') := by
    simpa only [String.append_assoc] using h
  obtain ⟨hfront, hchallenge⟩ := after_last_colon hid hid' hkeys
  have husers : family ++ tenantCode ++ (":" ++ userId) =
      family ++ tenantCode' ++ (":" ++ userId') := by
    simpa only [String.append_assoc] using hfront
  obtain ⟨htenant, hsame⟩ := after_last_colon huser huser' husers
  have hchars := congrArg String.toList htenant
  rw [String.toList_append, String.toList_append] at hchars
  exact ⟨String.toList_inj.mp (List.append_cancel_left hchars), hsame, hchallenge⟩

/-- Where the first three parts have no colon, the key tells them apart, and the scope
    entities up to the text for none. -/
theorem GenerateUserEffectiveRoleKey_eq {roleId roleId' sourceGroupId sourceGroupId' scopeType
    scopeType' : String} {scopeEntityId scopeEntityId' : Option String}
    (hrole : ':' ∉ roleId.toList) (hrole' : ':' ∉ roleId'.toList)
    (hgroup : ':' ∉ sourceGroupId.toList) (hgroup' : ':' ∉ sourceGroupId'.toList)
    (htype : ':' ∉ scopeType.toList) (htype' : ':' ∉ scopeType'.toList) :
    GenerateUserEffectiveRoleKey roleId sourceGroupId scopeType scopeEntityId =
        GenerateUserEffectiveRoleKey roleId' sourceGroupId' scopeType' scopeEntityId' ↔
      roleId = roleId' ∧ sourceGroupId = sourceGroupId' ∧ scopeType = scopeType' ∧
        orNullText scopeEntityId = orNullText scopeEntityId' := by
  constructor
  · intro h
    simp only [GenerateUserEffectiveRoleKey, String.append_assoc] at h
    obtain ⟨hr, hrest⟩ := before_colon hrole hrole' h
    obtain ⟨hg, hrest⟩ := before_colon hgroup hgroup' hrest
    obtain ⟨ht, hs⟩ := before_colon htype htype' hrest
    exact ⟨hr, hg, ht, hs⟩
  · rintro ⟨rfl, rfl, rfl, hs⟩
    simp only [GenerateUserEffectiveRoleKey, hs]

end AccessService.Constants
