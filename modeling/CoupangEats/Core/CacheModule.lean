import CoupangEats.Core.CacheService
import CoupangEats.User.Cache

/-!
The cache wrapper, for any method.

`CacheModule` replaces a method that is decorated with `@Cache` by a function
that looks in the cache first and stores there what the method returns. Every
command of the cache can fail, and the result may be one that `JSON.stringify`
throws on. Whatever fails, a wrapped call is either a run of the original, or
it returns what the original has returned before for the same key argument
(`wrapMethod_transparent`). The invariant is about the store: under the prefix of
the method it holds only what an earlier run returned (`Remembered`).
-/

namespace CoupangEats

open CoupangEats.Base

/-! ### The wrapper -/

structure CacheOptions where
  key : String
  ttl : ℚ
  index : Option ℕ

/-- A method of an instance. `image` is what `JSON.parse(JSON.stringify(result))`
gives, and `none` when `JSON.stringify` throws; an `undefined` result is stored as an
empty text, which is read back like `null`. -/
structure Method (σ β α ε : Type) where
  run : List β → σ → Except ε α × σ
  asString : β → Option String
  image : α → Option Json

/-- An instance: its state, and the runs of its method so far. -/
@[ext] structure Instance (σ β α ε : Type) where
  state : σ
  runs : List (List β × Except ε α)

/-- What a wrapped call returns. -/
inductive Returned (α : Type) where
  | result (result : α)
  | cached (data : Json)

/-- The instants of a wrapped call, and how its Redis commands end. -/
structure CacheEnv where
  read : Time
  getReply : Reply
  written : Time
  setReply : Reply
  expireReply : Reply

variable {σ β α ε : Type}

/-- `originalMethod.apply(instance, args)`. -/
def Method.apply (original : Method σ β α ε) (args : List β) (self : Instance σ β α ε) :
    Except ε α × Instance σ β α ε :=
  let out := original.run args self.state
  (out.1, ⟨out.2, self.runs ++ [(args, out.1)]⟩)

namespace CacheModule

/-- The argument whose text the key ends with, when it is a string. -/
def keyArgument (original : Method σ β α ε) (options : CacheOptions) (args : List β) :
    Option String :=
  args[options.index.getD 0]?.bind original.asString

def cacheKey (original : Method σ β α ε) (options : CacheOptions) (args : List β) : String :=
  options.key ++ (keyArgument original options args).getD ""

/-- Step (4) of a wrapped call; whatever is thrown is caught. -/
def storeResult (original : Method σ β α ε) (options : CacheOptions) (args : List β)
    (env : CacheEnv) (result : α) (redis : Redis) : Redis :=
  match original.image result with
  | none => redis
  | some data =>
      (CacheService.set redis env.written (cacheKey original options args) data (some options.ttl)
        env.setReply env.expireReply).1

def wrapMethod (original : Method σ β α ε) (options : CacheOptions) (args : List β)
    (env : CacheEnv) (self : Instance σ β α ε) (redis : Redis) :
    Except ε (Returned α) × Instance σ β α ε × Redis :=
  match CacheService.get redis env.read (cacheKey original options args) env.getReply with
  | .error _ =>
      let out := original.apply args self
      (out.1.map .result, out.2, redis)
  | .ok cachedData =>
      match cachedData.filter Json.truthy with
      | some data => (.ok (.cached data), self, redis)
      | none =>
          match original.apply args self with
          | (.error e, self) => (.error e, self, redis)
          | (.ok result, self) =>
              (.ok (.result result), self, storeResult original options args env result redis)

end CacheModule

/-! ### Runs -/

/-- The instance and the store behind its wrapped method. -/
structure Wrapped (σ β α ε : Type) where
  self : Instance σ β α ε
  redis : Redis

/-- A call of the wrapped method, or what others do in between: to the state of the
instance, and to the store. -/
inductive WrapStep (σ β : Type) where
  | call (args : List β) (env : CacheEnv)
  | outside (state : σ) (redis : Redis)

/-- The wrapped method; only a call of it is answered. -/
def wrappedMethod (original : Method σ β α ε) (options : CacheOptions) :
    Machine (Wrapped σ β α ε) (WrapStep σ β) (Option (Except ε (Returned α))) where
  step s
    | .call args env =>
        let out := CacheModule.wrapMethod original options args env s.self s.redis
        (⟨out.2.1, out.2.2⟩, some out.1)
    | .outside state redis => (⟨⟨state, s.self.runs⟩, redis⟩, none)

abbrev WrapEvent (σ β α ε : Type) :=
  Event (Wrapped σ β α ε) (WrapStep σ β) (Option (Except ε (Returned α)))

/-- Others bring no value under a key with the prefix; they may delete there. -/
def LeavesPrefix (options : CacheOptions) (e : WrapEvent σ β α ε) : Prop :=
  ∀ state redis, e.input = .outside state redis → ∀ suffix value,
    redis.Holds (options.key ++ suffix) value → e.before.redis.Holds (options.key ++ suffix) value

/-- In the event the original has run, once, and its outcome is the answer. -/
def RunsOriginal (original : Method σ β α ε) (args : List β) (e : WrapEvent σ β α ε) : Prop :=
  let out := original.run args e.before.self.state
  e.output = some (out.1.map .result) ∧
    e.after.self = ⟨out.2, e.before.self.runs ++ [(args, out.1)]⟩

/-- An event in which the original returned a result with this image for this key
argument. -/
def Returns (original : Method σ β α ε) (options : CacheOptions) (argument : String) (data : Json)
    (e : WrapEvent σ β α ε) : Prop :=
  ∃ args env result, e.input = .call args env ∧
    CacheModule.keyArgument original options args = some argument ∧
    RunsOriginal original args e ∧ (original.run args e.before.self.state).1 = .ok result ∧
    original.image result = some data

/-! ### One call -/

section Step

variable {original : Method σ β α ε} {options : CacheOptions}

theorem CacheModule.holds_of_storeResult {args : List β} {env : CacheEnv} {result : α}
    {redis : Redis} {key : String} {data : Json}
    (holds : (storeResult original options args env result redis).Holds key data) :
    (key = cacheKey original options args ∧ original.image result = some data) ∨
      redis.Holds key data := by
  unfold storeResult at holds
  split at holds
  · exact .inr holds
  · rename_i image imaged
    rcases CacheService.holds_of_set holds with ⟨same, rfl⟩ | before
    · exact .inl ⟨same, imaged⟩
    · exact .inr before

/-- A wrapped call returns what its key holds, or it runs the original, and then the
store holds nothing new but the image of the result under that key. -/
theorem CacheModule.wrapMethod_cases (original : Method σ β α ε) (options : CacheOptions)
    (args : List β) (env : CacheEnv) (self : Instance σ β α ε) (redis : Redis) :
    (∃ data, redis.Holds (cacheKey original options args) data ∧
        wrapMethod original options args env self redis = (.ok (.cached data), self, redis)) ∨
      ∃ after, wrapMethod original options args env self redis =
          ((original.apply args self).1.map .result, (original.apply args self).2, after) ∧
        ∀ key data, after.Holds key data → redis.Holds key data ∨
          key = cacheKey original options args ∧
            ∃ result, (original.apply args self).1 = .ok result ∧
              original.image result = some data := by
  unfold wrapMethod
  split
  · exact .inr ⟨redis, rfl, fun key data holds => .inl holds⟩
  · rename_i cachedData got
    split
    · rename_i data truthy
      left
      refine ⟨data, ?_, rfl⟩
      unfold CacheService.get at got
      split at got
      · cases got
      · rw [Except.ok.injEq] at got
        rw [← got] at truthy
        exact Expiring.holds_of_get (Option.filter_eq_some_iff.mp truthy).1
    · split
      · rename_i e after threw
        rw [threw]
        exact .inr ⟨redis, rfl, fun key data holds => .inl holds⟩
      · rename_i result after returned
        rw [returned]
        refine .inr ⟨_, rfl, fun key data holds => ?_⟩
        rcases holds_of_storeResult holds with ⟨same, imaged⟩ | before
        · exact .inr ⟨same, result, rfl, imaged⟩
        · exact .inl before

/-- Under the prefix the store holds only what the original has returned in the events
so far. -/
def Remembered (original : Method σ β α ε) (options : CacheOptions)
    (past : List (WrapEvent σ β α ε)) (redis : Redis) : Prop :=
  ∀ argument data, redis.Holds (options.key ++ argument) data →
    ∃ f ∈ past, Returns original options argument data f

variable {past : List (WrapEvent σ β α ε)} {e : WrapEvent σ β α ε}

theorem Remembered.mono (remembered : Remembered original options past e.before.redis)
    (kept : ∀ argument data, e.after.redis.Holds (options.key ++ argument) data →
      e.before.redis.Holds (options.key ++ argument) data ∨
        Returns original options argument data e) :
    Remembered original options (past ++ [e]) e.after.redis := by
  intro argument data holds
  rcases kept argument data holds with before | returned
  · obtain ⟨f, mem, returns⟩ := remembered argument data before
    exact ⟨f, List.mem_append_left _ mem, returns⟩
  · exact ⟨e, by simp, returned⟩

theorem Remembered.step
    (step : (wrappedMethod original options).step e.before e.input = (e.after, e.output))
    (leaves : LeavesPrefix options e)
    (texts : ∀ args env, e.input = .call args env →
      ∃ argument, CacheModule.keyArgument original options args = some argument)
    (remembered : Remembered original options past e.before.redis) :
    Remembered original options (past ++ [e]) e.after.redis := by
  obtain ⟨before, input, output, after⟩ := e
  apply remembered.mono
  intro argument data holds
  cases input with
  | outside state redis =>
      simp only [wrappedMethod, Prod.mk.injEq] at step
      rw [← step.1] at holds
      exact .inl (leaves state redis rfl argument data holds)
  | call args env =>
      obtain ⟨text, called⟩ := texts args env rfl
      simp only [wrappedMethod, Prod.mk.injEq] at step
      obtain ⟨rfl, rfl⟩ := step
      rcases CacheModule.wrapMethod_cases original options args env before.self before.redis with
        ⟨cached, -, hit⟩ | ⟨redis, ran, brings⟩
      · rw [hit] at holds
        exact .inl holds
      · rw [ran] at holds
        rcases brings _ data holds with old | ⟨key, result, returned, imaged⟩
        · exact .inl old
        · rw [CacheModule.cacheKey, called, Option.getD_some, String.append_right_inj] at key
          subst key
          refine .inr ⟨args, env, result, rfl, called, ⟨?_, ?_⟩, returned, imaged⟩
          · rw [ran]
            rfl
          · rw [ran]
            rfl

end Step

/-! ### Runs -/

/-- The cache is transparent: whatever fails, a call of the wrapped method runs the
original once and answers with its outcome, or it does not run it and returns what
an earlier call with the same key argument has returned. -/
theorem wrapMethod_transparent {original : Method σ β α ε} {options : CacheOptions}
    {start : Wrapped σ β α ε} {steps : List (WrapStep σ β)}
    (unused : ∀ argument data, ¬ start.redis.Holds (options.key ++ argument) data)
    (leaves : ∀ e ∈ (wrappedMethod original options).history start steps, LeavesPrefix options e)
    (texts : ∀ args env, .call args env ∈ steps →
      ∃ argument, CacheModule.keyArgument original options args = some argument)
    {first rest : List (WrapEvent σ β α ε)} {e : WrapEvent σ β α ε} {args : List β}
    {env : CacheEnv}
    (split : (wrappedMethod original options).history start steps = first ++ e :: rest)
    (called : e.input = .call args env) :
    RunsOriginal original args e ∨
      ∃ argument data, CacheModule.keyArgument original options args = some argument ∧
        e.output = some (.ok (.cached data)) ∧ e.after.self = e.before.self ∧
        ∃ f ∈ first, Returns original options argument data f := by
  have permitted : ∀ e ∈ (wrappedMethod original options).history start steps,
      LeavesPrefix options e ∧ ∀ args env, e.input = .call args env →
        ∃ argument, CacheModule.keyArgument original options args = some argument :=
    fun e mem => ⟨leaves e mem, fun args env input =>
      texts args env (input ▸ Machine.input_mem mem)⟩
  have remembered : Remembered original options first e.before.redis :=
    ((Machine.history_past (fun past s => Remembered original options past s.redis) _
      (fun past e step permitted remembered => remembered.step step permitted.1 permitted.2)
      (fun argument data holds => absurd holds (unused argument data)) permitted).2 _ _ _ split).1
  have mem := Machine.mem_of_split split
  have step := Machine.step_of_mem_history mem
  obtain ⟨argument, text⟩ := (permitted e mem).2 args env called
  obtain ⟨before, input, output, after⟩ := e
  simp only at called
  subst called
  simp only [wrappedMethod, Prod.mk.injEq] at step
  obtain ⟨rfl, rfl⟩ := step
  rcases CacheModule.wrapMethod_cases original options args env before.self before.redis with
    ⟨data, held, hit⟩ | ⟨redis, ran, -⟩
  · right
    rw [CacheModule.cacheKey, text, Option.getD_some] at held
    refine ⟨argument, data, text, ?_, ?_, remembered argument data held⟩
    · rw [hit]
    · rw [hit]
  · left
    refine ⟨?_, ?_⟩
    · rw [ran]
      rfl
    · rw [ran]
      rfl

/-- A counter that is read by name. -/
def sampleCounter : Method ℕ String ℕ Unit where
  run _ count := (.ok (count + 1), count + 1)
  asString := some
  image count := some (.num count)

def sampleCounterOptions : CacheOptions := ⟨"count/", 60, none⟩

def sampleCount (now : Time) (expireReply : Reply) : WrapStep ℕ String :=
  .call ["a"] ⟨now, .works, now, .works, expireReply⟩

/-- Two calls with one argument; `EXPIRE` fails in the first one. -/
def sampleFirstCount : WrapEvent ℕ String ℕ Unit :=
  (wrappedMethod sampleCounter sampleCounterOptions).event ⟨⟨0, []⟩, .empty⟩ (sampleCount 0 .lost)

def sampleSecondCount : WrapEvent ℕ String ℕ Unit :=
  (wrappedMethod sampleCounter sampleCounterOptions).event sampleFirstCount.after
    (sampleCount 1 .works)

theorem sampleCounts_transparent :
    RunsOriginal sampleCounter ["a"] sampleSecondCount ∨
      ∃ argument data,
        CacheModule.keyArgument sampleCounter sampleCounterOptions ["a"] = some argument ∧
        sampleSecondCount.output = some (.ok (.cached data)) ∧
        sampleSecondCount.after.self = sampleSecondCount.before.self ∧
        ∃ f ∈ [sampleFirstCount], Returns sampleCounter sampleCounterOptions argument data f := by
  have split : (wrappedMethod sampleCounter sampleCounterOptions).history ⟨⟨0, []⟩, .empty⟩
      [sampleCount 0 .lost, sampleCount 1 .works] = [sampleFirstCount] ++ [sampleSecondCount] := rfl
  refine wrapMethod_transparent ?unused ?leaves ?texts split rfl
  case unused =>
    intro argument data
    exact Expiring.not_holds_empty _ _
  case leaves =>
    intro e mem state redis outside
    have input := Machine.input_mem mem
    rw [outside] at input
    simp [sampleCount] at input
  case texts =>
    intro args env mem
    simp only [sampleCount, List.mem_cons, WrapStep.call.injEq, List.not_mem_nil, or_false] at mem
    rcases mem with ⟨rfl, rfl⟩ | ⟨rfl, rfl⟩
    · exact ⟨"a", rfl⟩
    · exact ⟨"a", rfl⟩

/-! ### The cached profiles -/

section Profiles

variable (original : String → σ → Except ApiError Json × σ)

/-- A method whose results are plain data, read by its first argument. -/
def plainMethod : Method σ String Json ApiError where
  run args s := original (args.headD "") s
  asString := some
  image := some

def Returned.value : Returned Json → Json
  | .result value => value
  | .cached data => data

def Reply.ofFails (fails : Bool) : Reply := if fails then .lost else .works

def WrapEnv.replies (env : WrapEnv) : CacheEnv :=
  ⟨env.read, .ofFails env.readFails, env.written, .ofFails env.setFails, .ofFails env.expireFails⟩

/-- The wrapper that the profiles are modelled with is this one, for such a method. -/
theorem wrapMethod_eq (key : String) (ttl : Int) (argument : String) (env : WrapEnv) (s : σ)
    (runs : List (List String × Except ApiError Json)) (redis : Redis) :
    wrapMethod key ttl original argument env s redis =
      let out := CacheModule.wrapMethod (plainMethod original) ⟨key, ttl, none⟩ [argument]
        env.replies ⟨s, runs⟩ redis
      (out.1.map Returned.value, out.2.1.state, out.2.2) := by
  obtain ⟨read, written, readFails, setFails, expireFails⟩ := env
  have ran : (plainMethod original).run [argument] s = original argument s := rfl
  cases readFails with
  | true =>
      simp only [wrapMethod, CacheModule.wrapMethod, CacheService.get, WrapEnv.replies,
        Reply.ofFails, Reply.fails, if_true, Method.apply, ran]
      cases original argument s with
      | mk outcome after =>
          cases outcome with
          | error e => rfl
          | ok result => rfl
  | false =>
      have suffix : CacheModule.cacheKey (plainMethod original) ⟨key, ttl, none⟩ [argument] =
          key ++ argument := rfl
      simp only [wrapMethod, CacheModule.wrapMethod, CacheService.get, WrapEnv.replies,
        Reply.ofFails, Reply.fails, Bool.false_eq_true, if_false, suffix]
      cases hit : (cacheGet redis read (key ++ argument)).filter Json.truthy with
      | some data => rfl
      | none =>
          simp only [Method.apply, ran]
          cases original argument s with
          | mk outcome after =>
              cases outcome with
              | error e => rfl
              | ok result =>
                  have image : (plainMethod original).image result = some result := rfl
                  simp only [CacheModule.storeResult, image, suffix]
                  cases setFails with
                  | true => rfl
                  | false =>
                      cases expireFails with
                      | true =>
                          simp only [Bool.false_eq_true, if_false, if_true,
                            CacheService.set_expireLost]
                          rfl
                      | false =>
                          have works := CacheService.set_works redis written (key ++ argument)
                            result (some ttl)
                          rw [Option.map_some] at works
                          simp only [Bool.false_eq_true, if_false, works]
                          rfl

end Profiles

end CoupangEats
