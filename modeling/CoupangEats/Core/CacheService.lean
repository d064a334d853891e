import CoupangEats.Auth.Account
import CoupangEats.Base.Machine
import Mathlib.Algebra.Order.Ring.Rat
import Mathlib.Data.Rat.Cast.Defs

/-!
The cache service when Redis commands fail.

A command that fails either never reached the server, or took effect there
before its reply was lost. `CacheService.set` sends two commands, the value
first and then its time to live, so a failure of either one can leave a value
that never expires. What a key was last set to expires in time after every call
of a run exactly when no call of the run ends between the two
(`alwaysExpires_iff`).
-/

namespace CoupangEats

open CoupangEats.Base

/-! ### Commands -/

/-- How a Redis command ends for the client, and whether it took effect. -/
inductive Reply where
  | works
  | lost
  | applied
  deriving DecidableEq, Repr

def Reply.takesEffect : Reply → Bool
  | .works | .applied => true
  | .lost => false

def Reply.fails : Reply → Bool
  | .works => false
  | .lost | .applied => true

/-- A command that changes the store. -/
def sendCommand (reply : Reply) (effect : Redis → Redis) (redis : Redis) :
    Redis × Except ApiError Unit :=
  (if reply.takesEffect then effect redis else redis,
    if reply.fails then .error cacheFailed else .ok ())

@[simp] theorem sendCommand_works (effect : Redis → Redis) (redis : Redis) :
    sendCommand .works effect redis = (effect redis, .ok ()) := rfl

@[simp] theorem sendCommand_lost (effect : Redis → Redis) (redis : Redis) :
    sendCommand .lost effect redis = (redis, .error cacheFailed) := rfl

/-! ### The service -/

namespace CacheService

/-- `EXPIRE key ttl`; Redis refuses a time to live that is not an integer. -/
def setTTL (redis : Redis) (now : Time) (key : String) (ttl : ℚ) (reply : Reply) :
    Redis × Except ApiError Unit :=
  if ttl.isInt then sendCommand reply (fun redis => redis.expire now key (ttl.num * 1000)) redis
  else (redis, .error (.internal "ERR value is not an integer or out of range"))

def get (redis : Redis) (now : Time) (key : String) (reply : Reply) :
    Except ApiError (Option Json) :=
  if reply.fails then .error cacheFailed else .ok (cacheGet redis now key)

/-- `SET`, and then, `if (ttl)`, `EXPIRE`. -/
def set (redis : Redis) (now : Time) (key : String) (value : Json) (ttl : Option ℚ)
    (setReply expireReply : Reply) : Redis × Except ApiError Unit :=
  match sendCommand setReply (fun redis => redis.set key value) redis with
  | (redis, .error e) => (redis, .error e)
  | (redis, .ok ()) =>
      match ttl with
      | none => (redis, .ok ())
      | some ttl => if ttl = 0 then (redis, .ok ()) else setTTL redis now key ttl expireReply

def del (redis : Redis) (key : String) (reply : Reply) : Redis × Except ApiError Unit :=
  sendCommand reply (fun redis => redis.del key) redis

/-- When no command fails, a call with whole seconds is the one that the other
services are modelled with. -/
theorem set_works (redis : Redis) (now : Time) (key : String) (value : Json) (ttl : Option Int) :
    set redis now key value (ttl.map Int.cast) .works .works =
      (cacheSet redis now key value ttl, .ok ()) := by
  cases ttl with
  | none => rfl
  | some seconds =>
      have whole : ((seconds : ℚ)).isInt = true := by simp [Rat.isInt]
      by_cases zero : seconds = 0
      · subst zero
        rfl
      · have nonzero : (seconds : ℚ) ≠ 0 := Int.cast_ne_zero.mpr zero
        simp only [set, sendCommand_works, cacheSet, setTTL, Option.map_some, nonzero, zero, whole,
          Rat.num_intCast, if_true, if_false]

/-- When the second command is lost, the value has been set. -/
theorem set_expireLost (redis : Redis) (now : Time) (key : String) (value : Json)
    (ttl : Option ℚ) : (set redis now key value ttl .works .lost).1 = redis.set key value := by
  cases ttl with
  | none => rfl
  | some ttl =>
      simp only [set, sendCommand_works, setTTL, sendCommand_lost]
      split_ifs
      · rfl
      · rfl
      · rfl

end CacheService

/-! ### Runs -/

/-- A call of `set`, at one moment of the clock. -/
structure SetCall where
  key : String
  value : Json
  ttl : Option ℚ
  now : Time
  setReply : Reply
  expireReply : Reply

inductive CacheCall where
  | set (call : SetCall)
  | get (key : String) (now : Time) (reply : Reply)
  | del (key : String) (reply : Reply)

/-- The service, whose calls return or throw. -/
def cacheService : Machine Redis CacheCall (Except ApiError (Option Json)) where
  step redis
    | .set call =>
        let out := CacheService.set redis call.now call.key call.value call.ttl call.setReply
          call.expireReply
        (out.1, out.2.map fun _ => none)
    | .get key now reply => (redis, CacheService.get redis now key reply)
    | .del key reply =>
        let out := CacheService.del redis key reply
        (out.1, out.2.map fun _ => none)

/-- The `set` call that a call writes a key by: its `SET` takes effect. -/
def writes (key : String) : CacheCall → Option SetCall
  | .set call => if call.key = key ∧ call.setReply.takesEffect = true then some call else none
  | _ => none

/-- The call that wrote a key last. -/
def lastWrite (key : String) (calls : List CacheCall) : Option SetCall :=
  (calls.filterMap (writes key)).getLast?

/-- Every key that was last written with a time to live expires within it. -/
def ExpiresInTime (redis : Redis) (calls : List CacheCall) : Prop :=
  ∀ key call ttl entry, lastWrite key calls = some call → call.ttl = some ttl → 0 < ttl →
    cacheService.run redis calls key = some entry →
      ∃ expires, entry.expires = some expires ∧ (expires : ℚ) ≤ call.now + ttl * 1000

/-- That holds after every call of a run, whether it has returned or thrown. -/
def AlwaysExpires (redis : Redis) (calls : List CacheCall) : Prop :=
  ∀ first rest, calls = first ++ rest → ExpiresInTime redis first

/-- The `EXPIRE` of a call is sent and takes effect. -/
def SetCall.expireTakesEffect (call : SetCall) : Bool :=
  !call.setReply.fails && call.ttl.any Rat.isInt && call.expireReply.takesEffect

/-- A call with a time to live does not end between its two commands: when its
`SET` takes effect, its `EXPIRE` does too. -/
def CacheCall.Whole : CacheCall → Prop
  | .set call => ∀ ttl, call.ttl = some ttl → 0 < ttl → call.setReply.takesEffect = true →
      call.expireTakesEffect = true
  | _ => True

/-! ### What a call leaves of a key -/

section Step

variable {redis : Redis} {now : Time} {key key' : String} {value : Json} {ttl : Option ℚ}
  {setReply expireReply : Reply}

theorem sendCommand_of_ne (reply : Reply) (effect : Redis → Redis)
    (keeps : effect redis key' = redis key') :
    (sendCommand reply effect redis).1 key' = redis key' := by
  unfold sendCommand
  split
  · exact keeps
  · rfl

theorem CacheService.setTTL_of_ne {ttl : ℚ} (other : key' ≠ key) :
    (CacheService.setTTL redis now key ttl expireReply).1 key' = redis key' := by
  unfold CacheService.setTTL
  split
  · exact sendCommand_of_ne _ _ (Expiring.expire_of_ne other)
  · rfl

/-- A call changes no other key than its own. -/
theorem CacheService.set_of_ne (other : key' ≠ key) :
    (CacheService.set redis now key value ttl setReply expireReply).1 key' = redis key' := by
  have stored : redis.set key value key' = redis key' := Expiring.set_of_ne other
  cases setReply with
  | lost => rfl
  | applied => exact stored
  | works =>
      cases ttl with
      | none => exact stored
      | some ttl =>
          by_cases zero : ttl = 0
          · subst zero
            exact stored
          · simp only [CacheService.set, sendCommand_works, zero, if_false]
            rw [CacheService.setTTL_of_ne other, stored]

/-- What a key holds after a call is the value of the call, or it was there before. -/
theorem CacheService.holds_of_set {held : Json}
    (holds : (CacheService.set redis now key value ttl setReply expireReply).1.Holds key' held) :
    (key' = key ∧ held = value) ∨ redis.Holds key' held := by
  have stored : (redis.set key value).Holds key' held →
      (key' = key ∧ held = value) ∨ redis.Holds key' held := by
    intro holds
    rw [Expiring.holds_set] at holds
    split at holds
    · rename_i same
      exact .inl ⟨same, holds⟩
    · exact .inr holds
  cases setReply with
  | lost => exact .inr holds
  | applied => exact stored holds
  | works =>
      simp only [CacheService.set, sendCommand_works, CacheService.setTTL] at holds
      split at holds
      · exact stored holds
      · split_ifs at holds
        · exact stored holds
        · cases expireReply with
          | lost => exact stored holds
          | works => exact stored (Expiring.holds_of_expire holds)
          | applied => exact stored (Expiring.holds_of_expire holds)
        · exact stored holds

/-- A call that does not write a key leaves its entry or deletes it. -/
theorem step_of_not_writes {call : CacheCall} (other : writes key call = none) :
    (cacheService.step redis call).1 key = redis key ∨
      (cacheService.step redis call).1 key = none := by
  cases call with
  | get _ _ _ => exact .inl rfl
  | set call =>
      obtain ⟨key', value, ttl, now, setReply, expireReply⟩ := call
      left
      by_cases same : key' = key
      · cases setReply with
        | lost => rfl
        | works => simp [writes, same, Reply.takesEffect] at other
        | applied => simp [writes, same, Reply.takesEffect] at other
      · exact CacheService.set_of_ne (Ne.symm same)
  | del key' reply =>
      by_cases same : key = key'
      · subst same
        cases reply with
        | lost => exact .inl rfl
        | works => exact .inr (Function.update_self ..)
        | applied => exact .inr (Function.update_self ..)
      · left
        exact sendCommand_of_ne reply (fun redis => redis.del key') (Expiring.del_of_ne same)

/-- `EXPIRE` gives a value that was just set its time to live. -/
theorem CacheService.setTTL_self {ttl : ℚ} (positive : 0 < ttl) (reply : Reply) :
    (CacheService.setTTL (redis.set key value) now key ttl reply).1 key =
      some ⟨value,
        if ttl.isInt = true ∧ reply.takesEffect = true then some (now + ttl.num * 1000)
        else none⟩ := by
  have stored : redis.set key value key = some ⟨value, none⟩ := Function.update_self ..
  have expired : (redis.set key value).expire now key (ttl.num * 1000) key =
      some ⟨value, some (now + ttl.num * 1000)⟩ := by
    have later : ¬ ttl.num * 1000 ≤ 0 := by
      have := Rat.num_pos.mpr positive
      omega
    simp [Expiring.expire, later]
  unfold CacheService.setTTL
  cases ttl.isInt with
  | false => exact stored
  | true =>
      cases reply with
      | lost => exact stored
      | works => exact expired
      | applied => exact expired

/-- A call with a time to live leaves its value, with an expiry only when the
second command takes effect too. -/
theorem step_of_writes {call : SetCall} {ttl : ℚ} (effective : call.setReply.takesEffect = true)
    (timed : call.ttl = some ttl) (positive : 0 < ttl) :
    (cacheService.step redis (.set call)).1 call.key =
      some ⟨call.value,
        if call.expireTakesEffect then some (call.now + ttl.num * 1000) else none⟩ := by
  obtain ⟨key, value, _, now, setReply, expireReply⟩ := call
  simp only at timed
  subst timed
  cases setReply with
  | lost => cases effective
  | applied => exact Function.update_self ..
  | works =>
      simp only [cacheService, CacheService.set, sendCommand_works, ne_of_gt positive, if_false,
        SetCall.expireTakesEffect, Option.any_some]
      rw [CacheService.setTTL_self positive]
      simp [Reply.fails]

end Step

/-! ### Runs -/

section Run

variable {redis : Redis} {calls : List CacheCall} {call : CacheCall} {key : String}

theorem lastWrite_concat_of_writes {written : SetCall} (wrote : writes key call = some written) :
    lastWrite key (calls ++ [call]) = some written := by
  simp [lastWrite, List.filterMap_append, wrote]

theorem lastWrite_concat_of_not_writes (other : writes key call = none) :
    lastWrite key (calls ++ [call]) = lastWrite key calls := by
  simp [lastWrite, List.filterMap_append, other]

theorem writes_eq_some {written : SetCall} (wrote : writes key call = some written) :
    call = .set written ∧ written.key = key ∧ written.setReply.takesEffect = true := by
  cases call with
  | get _ _ _ => cases wrote
  | del _ _ => cases wrote
  | set call =>
      simp only [writes, Option.ite_none_right_eq_some, Option.some.injEq] at wrote
      obtain ⟨⟨rfl, effective⟩, rfl⟩ := wrote
      exact ⟨rfl, rfl, effective⟩

/-- One more whole call keeps every key in time. -/
theorem ExpiresInTime.concat (inTime : ExpiresInTime redis calls) (whole : call.Whole) :
    ExpiresInTime redis (calls ++ [call]) := by
  intro key written ttl entry last timed positive held
  rw [Machine.run_append, Machine.run_cons, Machine.run_nil] at held
  cases wrote : writes key call with
  | none =>
      rw [lastWrite_concat_of_not_writes wrote] at last
      rcases step_of_not_writes wrote with same | gone
      · rw [same] at held
        exact inTime key written ttl entry last timed positive held
      · rw [gone] at held
        cases held
  | some written' =>
      rw [lastWrite_concat_of_writes wrote, Option.some.injEq] at last
      subst last
      obtain ⟨rfl, rfl, effective⟩ := writes_eq_some wrote
      have expires := whole ttl timed positive effective
      rw [step_of_writes effective timed positive, if_pos expires, Option.some.injEq] at held
      subst held
      have integer : ttl.isInt = true := by
        simp only [SetCall.expireTakesEffect, timed, Option.any_some, Bool.and_eq_true] at expires
        exact expires.1.2
      have seconds : (ttl.num : ℚ) = ttl := Rat.coe_int_num_of_den_eq_one (beq_iff_eq.mp integer)
      refine ⟨_, rfl, ?_⟩
      push_cast
      rw [seconds]

/-- A call that ends between its commands leaves a value that never expires. -/
theorem not_expiresInTime_concat (broken : ¬ call.Whole) :
    ¬ ExpiresInTime redis (calls ++ [call]) := by
  intro inTime
  cases call with
  | get _ _ _ => exact broken trivial
  | del _ _ => exact broken trivial
  | set call =>
      apply broken
      intro ttl timed positive effective
      by_contra missed
      have wrote : writes call.key (.set call) = some call := by simp [writes, effective]
      have held : cacheService.run redis (calls ++ [.set call]) call.key =
          some ⟨call.value, none⟩ := by
        rw [Machine.run_append, Machine.run_cons, Machine.run_nil,
          step_of_writes effective timed positive, if_neg missed]
      obtain ⟨expires, forever, -⟩ :=
        inTime call.key call ttl _ (lastWrite_concat_of_writes wrote) timed positive held
      cases forever

/-- Whatever the store held before: after every call of a run the keys expire in
time, exactly when every call of the run is whole. -/
theorem alwaysExpires_iff (redis : Redis) (calls : List CacheCall) :
    AlwaysExpires redis calls ↔ ∀ call ∈ calls, call.Whole := by
  constructor
  · intro always call mem
    obtain ⟨first, rest, rfl⟩ := List.append_of_mem mem
    by_contra broken
    apply not_expiresInTime_concat broken
    exact always (first ++ [call]) rest (by simp)
  · intro whole first rest split
    have permitted : ∀ call ∈ first, call.Whole := fun call mem =>
      whole call (split ▸ List.mem_append_left rest mem)
    clear split whole
    induction first using List.reverseRecOn with
    | nil =>
        intro key call ttl entry last
        cases last
    | append_singleton first call ih =>
        apply ExpiresInTime.concat
        · exact ih fun call mem => permitted call (List.mem_append_left _ mem)
        · exact permitted call (by simp)

/-- A profile that is cached for a minute while the reply to `EXPIRE` fails. -/
theorem cached_forever :
    ¬ ∀ (redis : Redis) (calls : List CacheCall), AlwaysExpires redis calls := by
  intro all
  let call : SetCall := ⟨"user/u", .bool true, some 60, 0, .works, .lost⟩
  obtain ⟨expires, forever, -⟩ := all .empty [.set call] [.set call] [] rfl "user/u" call 60
    ⟨.bool true, none⟩ (by simp [lastWrite, writes, call, Reply.takesEffect]) rfl (by decide) rfl
  cases forever

end Run

end CoupangEats
