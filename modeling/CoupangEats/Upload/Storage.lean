import CoupangEats.Base.Interleave
import CoupangEats.Base.Text
import CoupangEats.Catalogue.Service

/-!
Image uploads.

A request puts its files into the bucket of the storage service at the same time, each
under a key of its own: the folder, a new uuid and the extension of the file's name. The
requests are threads on the bucket, and one of their steps is that an object arrives or
that the service answers a put. However they interleave, the addresses that a request
answers are in the order of its files and no two of them are the same, and behind each
of them is the file, from then on (`uploads_stored`).

The pipe that checks the files, the uuids and the answers of the storage service come
from outside.
-/

namespace CoupangEats

open CoupangEats.Base

/-! ### Requests -/

/-- `Express.Multer.File`. -/
structure UploadedFile where
  originalname : String
  mimetype : String
  buffer : List UInt8
  deriving DecidableEq

inductive UploadFolder where
  | restaurant
  | dish
  | review
  | profile
  | common
  deriving DecidableEq, Repr

def UploadFolder.text : UploadFolder → String
  | .restaurant => "restaurant"
  | .dish => "dish"
  | .review => "review"
  | .profile => "profile"
  | .common => "common"

/-- `Object.values(UploadFolder)`. -/
def UploadFolder.values : List UploadFolder := [.restaurant, .dish, .review, .profile, .common]

/-- The folder of a body, `UploadFolder.COMMON` by default. -/
def UploadFolder.ofBody : Option Json → Option UploadFolder
  | none => some .common
  | some (.str folder) => UploadFolder.values.find? fun value => folder = value.text
  | some _ => none

/-- The files of a request to `uploadImage` or to `uploadMultipleImages`, as far as it
brings any. -/
inductive UploadFiles where
  | image (file : Option UploadedFile)
  | images (files : List UploadedFile)
  deriving DecidableEq

def UploadFiles.files : UploadFiles → List UploadedFile
  | .image file => file.toList
  | .images files => files

/-- A request with the uuids that are made for its files. -/
structure UploadRequest where
  upload : UploadFiles
  folder : Option Json
  uuid : Nat → String

/-- What the controller refuses, behind the pipe. The service takes the name of a file
that is not there within its `try`. -/
def checkUpload (parseFile : UploadFiles → Except ApiError Unit) (request : UploadRequest) :
    Except ApiError UploadFolder :=
  match parseFile request.upload with
  | .error e => .error e
  | .ok () =>
      match request.upload, UploadFolder.ofBody request.folder with
      | .image _, none =>
          .error (.badRequest ("잘못된 폴더명입니다. 허용된 값: " ++
            ", ".intercalate (UploadFolder.values.map UploadFolder.text)))
      | .image none, some _ =>
          .error (.internal
            "S3 Upload Failed: Cannot read properties of undefined (reading 'originalname')")
      | .image (some _), some folder => .ok folder
      | .images _, none => .error (.badRequest "잘못된 폴더명입니다.")
      | .images files, some folder =>
          if files = [] then .error (.badRequest "업로드할 파일이 없습니다.") else .ok folder

/-! ### Keys and addresses -/

def generateFileName (uuid originalName : String) : String :=
  uuid ++ String.ofList (extname originalName.toList)

def uploadKey (folder : UploadFolder) (uuid originalName : String) : String :=
  folder.text ++ "/" ++ generateFileName uuid originalName

/-- What `AwsS3Service` reads of the configuration, with `AWS_CDN_URL` of the environment. -/
structure AwsConfig where
  bucketName : String
  region : String
  cdnUrlEnv : Option String

/-- `AWS_CDN_URL` without a slash at its end, and without the whitespace around it. -/
def AwsConfig.cdnUrl (config : AwsConfig) : String :=
  let url := (config.cdnUrlEnv.getD "").toList
  String.ofList (trim (if url.getLast? = some '/' then url.dropLast else url))

def AwsConfig.buildPublicUrl (config : AwsConfig) (key : String) : String :=
  if config.cdnUrl ≠ "" then config.cdnUrl ++ "/" ++ key
  else "https://" ++ config.bucketName ++ ".s3." ++ config.region ++ ".amazonaws.com/" ++ key

theorem UploadFolder.text_injective : Function.Injective UploadFolder.text := by
  intro a b same
  cases a <;> cases b <;> simp_all [UploadFolder.text]

theorem UploadFolder.slash_not_mem (folder : UploadFolder) : '/' ∉ folder.text.toList := by
  cases folder <;> decide

/-- A uuid is five groups of digits with dashes between them. -/
theorem isUuid_groups {value : String} (uuid : isUuid value = true) :
    ∃ a b c d e : List Char,
      value.toList = a ++ '-' :: (b ++ '-' :: (c ++ '-' :: (d ++ '-' :: e))) ∧
        [a, b, c, d, e].map List.length = [8, 4, 4, 4, 12] ∧
        ∀ group ∈ [a, b, c, d, e], '/' ∉ group := by
  obtain ⟨lengths, digits⟩ := (Bool.and_eq_true _ _).mp uuid
  have whole : ['-'].intercalate (value.toList.splitOn '-') = value.toList :=
    List.intercalate_splitOn '-'
  generalize value.toList.splitOn '-' = groups at lengths digits whole
  have count := congrArg List.length (of_decide_eq_true lengths)
  match groups, count with
  | [a, b, c, d, e], _ =>
    refine ⟨a, b, c, d, e, ?_, of_decide_eq_true lengths, fun group mem slash => ?_⟩
    · simp [← whole, List.intercalate, List.intersperse]
    · have hex := List.all_eq_true.mp (List.all_eq_true.mp digits group mem) '/' slash
      exact absurd hex (by decide)

theorem isUuid_length {value : String} (uuid : isUuid value = true) : value.length = 36 := by
  obtain ⟨a, b, c, d, e, whole, lengths, -⟩ := isUuid_groups uuid
  rw [← String.length_toList, whole]
  simp only [List.map_cons, List.map_nil, List.cons.injEq, and_true] at lengths
  simp only [List.length_append, List.length_cons]
  omega

theorem slash_not_mem_uuid {value : String} (uuid : isUuid value = true) :
    '/' ∉ value.toList := by
  obtain ⟨a, b, c, d, e, whole, -, plain⟩ := isUuid_groups uuid
  simp only [List.forall_mem_cons] at plain
  simp [whole, plain]

/-- The file name of a key has no slash. -/
theorem slash_not_mem_fileName {uuid : String} (given : isUuid uuid = true) (name : String) :
    '/' ∉ (generateFileName uuid name).toList := by
  simp only [generateFileName, String.toList_append, String.toList_ofList, List.mem_append, not_or]
  exact ⟨slash_not_mem_uuid given, slash_not_mem_extname _⟩

/-- A key names its folder and its uuid. -/
theorem uploadKey_inj {folder folder' : UploadFolder} {uuid uuid' name name' : String}
    (given : isUuid uuid = true) (given' : isUuid uuid' = true)
    (same : uploadKey folder uuid name = uploadKey folder' uuid' name') :
    folder = folder' ∧ uuid = uuid' := by
  have chars := congrArg String.toList same
  simp only [uploadKey, String.toList_append, show "/".toList = ['/'] from rfl,
    List.append_assoc, List.singleton_append] at chars
  obtain ⟨folders, -, names⟩ := (List.append_cons_inj_of_notMem (folder.slash_not_mem)
    (slash_not_mem_fileName given name)).mp chars
  refine ⟨UploadFolder.text_injective (String.toList_inj.mp folders), ?_⟩
  simp only [generateFileName, String.toList_append] at names
  apply String.toList_inj.mp (List.append_inj_left names _)
  rw [String.length_toList, String.length_toList, isUuid_length given, isUuid_length given']

/-- Different keys have different addresses. -/
theorem buildPublicUrl_injective (config : AwsConfig) :
    Function.Injective config.buildPublicUrl := by
  intro key key' same
  simp only [AwsConfig.buildPublicUrl] at same
  split_ifs at same
  · exact (String.append_right_inj _).mp same
  · exact (String.append_right_inj _).mp same

/-! ### Puts on the bucket -/

/-- What the bucket keeps of a file. -/
structure StoredObject where
  body : List UInt8
  contentType : String
  deriving DecidableEq

abbrev Bucket := String → Option StoredObject

/-- What happens to a put: its object arrives, as often as the client sends it, or it is
answered, with a failure or without. -/
inductive PutEvent where
  | arrives
  | settles (failure : Option String)

/-- The puts of a request whose objects have arrived, and the answered ones in the order
of their answers. -/
structure UploadThread where
  arrived : List Nat
  settled : List (Nat × Option String)

section Threads

variable (parseFile : UploadFiles → Except ApiError Unit)

/-- The key and the object of a put of the request. -/
def UploadRequest.put? (request : UploadRequest) (n : Nat) : Option (String × StoredObject) :=
  match checkUpload parseFile request with
  | .error _ => none
  | .ok folder =>
      request.upload.files[n]?.map fun file =>
        (uploadKey folder (request.uuid n) file.originalname, ⟨file.buffer, file.mimetype⟩)

/-- A put is answered once, and without a failure only when its object is there. -/
def uploadStep {ι : Type} (requests : ι → UploadRequest) :
    ThreadStep ι (Nat × PutEvent) Bucket UploadThread
  | i, (n, event), bucket, thread =>
      match (requests i).put? parseFile n, event with
      | none, _ => (bucket, thread)
      | some (key, object), .arrives =>
          (Function.update bucket key (some object),
            { thread with arrived := n :: thread.arrived })
      | some _, .settles failure =>
          if n ∈ thread.settled.map Prod.fst ∨ (failure = none ∧ n ∉ thread.arrived) then
            (bucket, thread)
          else (bucket, { thread with settled := thread.settled ++ [(n, failure)] })

/-- The answer of a request, once there is one: the first failure of its puts as soon as
it is there, else the addresses of its files when all puts are answered. -/
def uploadAnswer (config : AwsConfig) (request : UploadRequest) (thread : UploadThread) :
    Option (Except ApiError (List String)) :=
  match checkUpload parseFile request with
  | .error e => some (.error e)
  | .ok folder =>
      match thread.settled.findSome? Prod.snd with
      | some message => some (.error (.internal ("S3 Upload Failed: " ++ message)))
      | none =>
          if ∀ n < request.upload.files.length, (n, none) ∈ thread.settled then
            some (.ok (request.upload.files.mapIdx fun n file =>
              config.buildPublicUrl (uploadKey folder (request.uuid n) file.originalname)))
          else none

end Threads

/-! ### One step -/

section Steps

variable {parseFile : UploadFiles → Except ApiError Unit} {config : AwsConfig}
  {request : UploadRequest} {bucket bucket' : Bucket} {thread thread' : UploadThread}
  {input : Nat × PutEvent}

/-- What a step does for a request. -/
inductive PutStep (put? : Nat → Option (String × StoredObject)) (bucket : Bucket)
    (thread : UploadThread) : Nat × PutEvent → Bucket → UploadThread → Prop
  | idle (input : Nat × PutEvent) : PutStep put? bucket thread input bucket thread
  | arrived {n key object} (given : put? n = some (key, object)) :
      PutStep put? bucket thread (n, .arrives) (Function.update bucket key (some object))
        { thread with arrived := n :: thread.arrived }
  | settled {n put failure} (given : put? n = some put) (first : n ∉ thread.settled.map Prod.fst)
      (there : failure = none → n ∈ thread.arrived) :
      PutStep put? bucket thread (n, .settles failure) bucket
        { thread with settled := thread.settled ++ [(n, failure)] }

theorem uploadStep_cases {ι : Type} {requests : ι → UploadRequest} (i : ι)
    (step : uploadStep parseFile requests i input bucket thread = (bucket', thread')) :
    PutStep ((requests i).put? parseFile) bucket thread input bucket' thread' := by
  obtain ⟨n, event⟩ := input
  simp only [uploadStep] at step
  cases given : (requests i).put? parseFile n with
  | none =>
      rw [given] at step
      cases step
      exact .idle _
  | some put =>
      cases event with
      | arrives =>
          rw [given] at step
          cases step
          exact .arrived given
      | settles failure =>
          simp only [given] at step
          by_cases blocked : n ∈ thread.settled.map Prod.fst ∨ (failure = none ∧ n ∉ thread.arrived)
          · rw [if_pos blocked] at step
            cases step
            exact .idle _
          · rw [if_neg blocked] at step
            cases step
            rw [not_or, not_and, not_not] at blocked
            exact .settled given blocked.1 blocked.2

variable {put? : Nat → Option (String × StoredObject)}

/-- A step leaves the bucket alone but for one key of the request. -/
theorem PutStep.store (step : PutStep put? bucket thread input bucket' thread') :
    bucket' = bucket ∨ ∃ n key object, put? n = some (key, object) ∧
      bucket' = Function.update bucket key (some object) := by
  cases step with
  | idle => exact .inl rfl
  | arrived given => exact .inr ⟨_, _, _, given, rfl⟩
  | settled => exact .inl rfl

theorem PutStep.mem_settled {n : Nat} {failure : Option String}
    (step : PutStep put? bucket thread input bucket' thread')
    (mem : (n, failure) ∈ thread'.settled) :
    (n, failure) ∈ thread.settled ∨ input = (n, .settles failure) := by
  cases step with
  | idle => exact .inl mem
  | arrived => exact .inl mem
  | settled =>
      refine (List.mem_append.mp mem).imp id fun new => ?_
      cases List.mem_singleton.mp new
      rfl

/-- The puts of a request are accounted for: each answered one is answered once and, without
a failure, has arrived, and what has arrived is in the bucket. -/
structure PutsAccounted (put? : Nat → Option (String × StoredObject)) (bucket : Bucket)
    (thread : UploadThread) : Prop where
  once : (thread.settled.map Prod.fst).Nodup
  given : ∀ n ∈ thread.settled.map Prod.fst, (put? n).isSome
  arrived : ∀ n, (n, none) ∈ thread.settled → n ∈ thread.arrived
  stored : ∀ n ∈ thread.arrived, ∀ key object, put? n = some (key, object) →
    bucket key = some object

/-- A step of the request itself. -/
theorem PutsAccounted.own (step : PutStep put? bucket thread input bucket' thread')
    (distinct : ∀ m n key object object', put? m = some (key, object) →
      put? n = some (key, object') → m = n)
    (accounted : PutsAccounted put? bucket thread) : PutsAccounted put? bucket' thread' := by
  obtain ⟨once, given, arrived, stored⟩ := accounted
  cases step with
  | idle => exact ⟨once, given, arrived, stored⟩
  | @arrived n key object put =>
      refine ⟨once, given, fun m done => List.mem_cons_of_mem _ (arrived m done), ?_⟩
      intro m mem key' object' put'
      by_cases same : key' = key
      · subst same
        obtain rfl := distinct m n key' object' object put' put
        rw [put] at put'
        cases put'
        exact Function.update_self _ _ _
      · rw [Function.update_of_ne same]
        rcases List.mem_cons.mp mem with rfl | mem
        · rw [put] at put'
          cases put'
          exact absurd rfl same
        · exact stored m mem key' object' put'
  | @settled n put failure there first present =>
      refine ⟨?_, ?_, ?_, stored⟩
      · rw [List.map_append, List.nodup_append]
        refine ⟨once, List.nodup_singleton _, fun a old b new same => first ?_⟩
        rw [same, List.mem_singleton.mp new] at old
        exact old
      · intro m mem
        rw [List.map_append, List.mem_append] at mem
        rcases mem with old | new
        · exact given m old
        · rw [List.mem_singleton.mp new]
          exact Option.isSome_of_eq_some there
      · intro m mem
        rcases List.mem_append.mp mem with old | new
        · exact arrived m old
        · cases List.mem_singleton.mp new
          exact present rfl

/-- A step of another request, with other keys. -/
theorem PutsAccounted.other {other? : Nat → Option (String × StoredObject)}
    {moved moved' : UploadThread} (step : PutStep other? bucket moved input bucket' moved')
    (apart : ∀ m n key object object', put? m = some (key, object) →
      other? n ≠ some (key, object'))
    (accounted : PutsAccounted put? bucket thread) : PutsAccounted put? bucket' thread := by
  rcases step.store with rfl | ⟨n, key, object, put, rfl⟩
  · exact accounted
  · refine { accounted with stored := fun m mem key' object' put' => ?_ }
    have foreign : key' ≠ key := fun same => apart m n key' object' object put' (same ▸ put)
    rw [Function.update_of_ne foreign]
    exact accounted.stored m mem key' object' put'

/-- A request answers once. -/
theorem uploadAnswer_kept {answer : Except ApiError (List String)}
    (step : PutStep (request.put? parseFile) bucket thread input bucket' thread')
    (answered : uploadAnswer parseFile config request thread = some answer) :
    uploadAnswer parseFile config request thread' = some answer := by
  cases step with
  | idle => exact answered
  | arrived => exact answered
  | @settled n put failure given first there =>
      simp only [uploadAnswer] at answered ⊢
      cases checked : checkUpload parseFile request with
      | error e => simpa only [checked] using answered
      | ok folder =>
          rw [checked] at answered
          simp only [List.findSome?_append] at answered ⊢
          cases failed : thread.settled.findSome? Prod.snd with
          | some message => simpa only [failed, Option.some_or] using answered
          | none =>
              -- The answers are all there, so that none can come.
              exfalso
              simp only [failed] at answered
              split_ifs at answered with all
              simp only [UploadRequest.put?, checked] at given
              obtain ⟨file, found, -⟩ := Option.map_eq_some_iff.mp given
              obtain ⟨inside, -⟩ := List.getElem?_eq_some_iff.mp found
              exact first (List.mem_map_of_mem (f := Prod.fst) (all n inside))

end Steps

/-! ### Runs -/

/-- The uuids of the files are uuids, and no two of them are the same. -/
structure FreshUuids {ι : Type} (requests : ι → UploadRequest) : Prop where
  format : ∀ i, ∀ n < (requests i).upload.files.length, isUuid ((requests i).uuid n) = true
  distinct : ∀ i j, ∀ m < (requests i).upload.files.length,
    ∀ n < (requests j).upload.files.length,
      (requests i).uuid m = (requests j).uuid n → i = j ∧ m = n

section Runs

variable {ι : Type} {parseFile : UploadFiles → Except ApiError Unit} {config : AwsConfig}
  {requests : ι → UploadRequest}

theorem put?_eq_some {request : UploadRequest} {n : Nat} {key : String} {object : StoredObject}
    (given : request.put? parseFile n = some (key, object)) :
    ∃ folder file, checkUpload parseFile request = .ok folder ∧
      request.upload.files[n]? = some file ∧ n < request.upload.files.length ∧
      key = uploadKey folder (request.uuid n) file.originalname ∧
      object = ⟨file.buffer, file.mimetype⟩ := by
  simp only [UploadRequest.put?] at given
  cases checked : checkUpload parseFile request with
  | error e => simp [checked] at given
  | ok folder =>
      simp only [checked] at given
      obtain ⟨file, found, same⟩ := Option.map_eq_some_iff.mp given
      cases same
      exact ⟨folder, file, rfl, found, (List.getElem?_eq_some_iff.mp found).1, rfl, rfl⟩

/-- No two puts have one key. -/
theorem FreshUuids.key_inj (fresh : FreshUuids requests) {i j : ι} {m n : Nat} {key : String}
    {object object' : StoredObject} (put : (requests i).put? parseFile m = some (key, object))
    (put' : (requests j).put? parseFile n = some (key, object')) : i = j ∧ m = n := by
  obtain ⟨folder, file, -, -, inside, rfl, -⟩ := put?_eq_some put
  obtain ⟨folder', file', -, -, inside', same, -⟩ := put?_eq_some put'
  obtain ⟨-, uuids⟩ := uploadKey_inj (fresh.format i m inside) (fresh.format j n inside') same
  exact fresh.distinct i j m inside n inside' uuids

/-- Nothing has happened to the puts. -/
def startUploads (old : Bucket) : Config ι Bucket UploadThread := ⟨old, fun _ => ⟨[], []⟩⟩

/-- At every moment of a run the puts are accounted for, the bucket has what it had and
objects of the requests, and failures are failures of puts. -/
structure UploadsKept (parseFile : UploadFiles → Except ApiError Unit)
    (requests : ι → UploadRequest) (old : Bucket) (schedule : List (ι × Nat × PutEvent))
    (c : Config ι Bucket UploadThread) : Prop where
  accounted : ∀ i, PutsAccounted ((requests i).put? parseFile) c.store (c.locals i)
  objects : ∀ key, c.store key = old key ∨
    ∃ i n object, (requests i).put? parseFile n = some (key, object) ∧ c.store key = some object
  failures : ∀ i n message, (n, some message) ∈ (c.locals i).settled →
    (i, n, .settles (some message)) ∈ schedule

theorem uploadsKept_start {old : Bucket} {schedule : List (ι × Nat × PutEvent)} :
    UploadsKept parseFile requests old schedule (startUploads old) := by
  refine ⟨fun i => ⟨?_, ?_, ?_, ?_⟩, fun _ => .inl rfl, ?_⟩ <;> simp [startUploads]

theorem uploadsKept_step [DecidableEq ι] (fresh : FreshUuids requests) {old : Bucket}
    {schedule : List (ι × Nat × PutEvent)}
    {e : Event (Config ι Bucket UploadThread) (ι × Nat × PutEvent) Unit}
    (step : (interleave (uploadStep parseFile requests)).step e.before e.input =
      (e.after, e.output))
    (listed : e.input ∈ schedule)
    (kept : UploadsKept parseFile requests old schedule e.before) :
    UploadsKept parseFile requests old schedule e.after := by
  obtain ⟨before, ⟨mover, input⟩, output, after⟩ := e
  obtain ⟨act, others⟩ := interleave_step step
  have moves := uploadStep_cases mover act
  obtain ⟨accounted, objects, failures⟩ := kept
  refine ⟨?_, ?_, ?_⟩
  · refine forall_locals others ((accounted mover).own moves ?_) fun j other =>
      (accounted j).other moves ?_
    · exact fun m n key object object' put put' => (fresh.key_inj put put').2
    · exact fun m n key object object' put put' => other (fresh.key_inj put put').1
  · intro key
    rcases moves.store with same | ⟨n, moved, object, put, same⟩
    · rw [same]
      exact objects key
    · rw [same]
      by_cases own : key = moved
      · subst own
        exact .inr ⟨mover, n, object, put, Function.update_self _ _ _⟩
      · rw [Function.update_of_ne own]
        exact objects key
  · intro i n message mem
    by_cases own : i = mover
    · subst own
      rcases moves.mem_settled mem with earlier | rfl
      · exact failures i n message earlier
      · exact listed
    · rw [others i own] at mem
      exact failures i n message mem

/-- What an answer says: of a refusal nothing, of the rest whether the puts are answered. -/
theorem uploadAnswer_ok {request : UploadRequest} {thread : UploadThread} {urls : List String}
    (answered : uploadAnswer parseFile config request thread = some (.ok urls)) :
    ∃ folder, checkUpload parseFile request = .ok folder ∧
      (∀ n < request.upload.files.length, (n, none) ∈ thread.settled) ∧
      urls = request.upload.files.mapIdx fun n file =>
        config.buildPublicUrl (uploadKey folder (request.uuid n) file.originalname) := by
  simp only [uploadAnswer] at answered
  cases checked : checkUpload parseFile request with
  | error e => simp [checked] at answered
  | ok folder =>
      simp only [checked] at answered
      cases failed : thread.settled.findSome? Prod.snd with
      | some message => simp [failed] at answered
      | none =>
          simp only [failed] at answered
          split_ifs at answered with all
          cases answered
          exact ⟨folder, rfl, all, rfl⟩

theorem uploadAnswer_error {request : UploadRequest} {thread : UploadThread} {e : ApiError}
    (answered : uploadAnswer parseFile config request thread = some (.error e)) :
    checkUpload parseFile request = .error e ∨ ∃ n message, (n, some message) ∈ thread.settled ∧
      e = .internal ("S3 Upload Failed: " ++ message) := by
  simp only [uploadAnswer] at answered
  cases checked : checkUpload parseFile request with
  | error e' =>
      simp only [checked] at answered
      cases answered
      exact .inl rfl
  | ok folder =>
      simp only [checked] at answered
      cases failed : thread.settled.findSome? Prod.snd with
      | some message =>
          simp only [failed] at answered
          cases answered
          obtain ⟨⟨n, failure⟩, mem, same⟩ := List.exists_of_findSome?_eq_some failed
          exact .inr ⟨n, message, same ▸ mem, rfl⟩
      | none =>
          simp only [failed] at answered
          split_ifs at answered
          cases answered

/-- However the requests and their puts interleave: behind the addresses that a request
answers are its files in their order, each in the folder of the request, and neither
the answer nor an object changes later. No address is answered twice. What fails is
refused by the controller or a put that failed, and the bucket has only what it had
and files of requests that were not refused. -/
theorem uploads_stored [DecidableEq ι] (fresh : FreshUuids requests) (old : Bucket)
    (schedule later : List (ι × Nat × PutEvent)) :
    let machine := interleave (uploadStep parseFile requests)
    let now := machine.run (startUploads old) schedule
    let final := machine.run now later
    (∀ i urls, uploadAnswer parseFile config (requests i) (now.locals i) = some (.ok urls) →
        uploadAnswer parseFile config (requests i) (final.locals i) = some (.ok urls) ∧
        urls.length = (requests i).upload.files.length ∧
        ∀ (n : Nat) (file : UploadedFile), (requests i).upload.files[n]? = some file →
          ∃ folder name, checkUpload parseFile (requests i) = .ok folder ∧ '/' ∉ name.toList ∧
            urls[n]? = some (config.buildPublicUrl (folder.text ++ "/" ++ name)) ∧
            final.store (folder.text ++ "/" ++ name) = some ⟨file.buffer, file.mimetype⟩) ∧
      (∀ i j urls urls', uploadAnswer parseFile config (requests i) (now.locals i) =
          some (.ok urls) →
        uploadAnswer parseFile config (requests j) (now.locals j) = some (.ok urls') →
        ∀ (m n : Nat) (url : String), urls[m]? = some url → urls'[n]? = some url → i = j ∧ m = n) ∧
      (∀ i e, uploadAnswer parseFile config (requests i) (now.locals i) = some (.error e) →
        checkUpload parseFile (requests i) = .error e ∨
          ∃ n message, (i, n, .settles (some message)) ∈ schedule ∧
            e = .internal ("S3 Upload Failed: " ++ message)) ∧
      ∀ key, final.store key = old key ∨ ∃ i, ∃ n : Nat, ∃ folder, ∃ file : UploadedFile,
        checkUpload parseFile (requests i) = .ok folder ∧
          (requests i).upload.files[n]? = some file ∧
          key = uploadKey folder ((requests i).uuid n) file.originalname ∧
          final.store key = some ⟨file.buffer, file.mimetype⟩ := by
  intro machine now final
  have kept (schedule : List (ι × Nat × PutEvent)) : UploadsKept parseFile requests old schedule
      (machine.run (startUploads old) schedule) :=
    (Machine.history_invariant (UploadsKept parseFile requests old schedule)
      (fun e => e.input ∈ schedule) (fun _ step listed => uploadsKept_step fresh step listed)
      uploadsKept_start fun _ mem => Machine.input_mem mem).1
  have whole := kept (schedule ++ later)
  rw [Machine.run_append] at whole
  have answers (i : ι) (answer) (answered : uploadAnswer parseFile config (requests i)
      (now.locals i) = some answer) :
      uploadAnswer parseFile config (requests i) (final.locals i) = some answer := by
    refine (Machine.history_invariant (m := machine) (fun c => uploadAnswer parseFile config
      (requests i) (c.locals i) = some answer) (fun _ => True) (fun e step _ before => ?_)
      answered fun _ _ => trivial).1
    obtain ⟨act, others⟩ := interleave_step step
    by_cases own : i = e.input.1
    · subst own
      exact uploadAnswer_kept (uploadStep_cases _ act) before
    · rw [others i own]
      exact before
  refine ⟨?_, ?_, ?_, ?_⟩
  · intro i urls answered
    have lasting := answers i _ answered
    obtain ⟨folder, checked, all, rfl⟩ := uploadAnswer_ok lasting
    refine ⟨lasting, List.length_mapIdx, fun n file found => ?_⟩
    obtain ⟨inside, -⟩ := List.getElem?_eq_some_iff.mp found
    refine ⟨folder, generateFileName ((requests i).uuid n) file.originalname, checked,
      slash_not_mem_fileName (fresh.format i n inside) _, ?_, ?_⟩
    · rw [List.getElem?_mapIdx, found]
      rfl
    · apply (whole.accounted i).stored n ((whole.accounted i).arrived n (all n inside))
      simp only [UploadRequest.put?, checked, found, Option.map_some, uploadKey]
  · intro i j urls urls' answered answered' m n url here there
    obtain ⟨folder, checked, all, rfl⟩ := uploadAnswer_ok answered
    obtain ⟨folder', checked', all', rfl⟩ := uploadAnswer_ok answered'
    rw [List.getElem?_mapIdx] at here there
    obtain ⟨file, found, same⟩ := Option.map_eq_some_iff.mp here
    obtain ⟨file', found', same'⟩ := Option.map_eq_some_iff.mp there
    have keys := buildPublicUrl_injective config (same.trans same'.symm)
    obtain ⟨inside, -⟩ := List.getElem?_eq_some_iff.mp found
    obtain ⟨inside', -⟩ := List.getElem?_eq_some_iff.mp found'
    obtain ⟨-, uuids⟩ := uploadKey_inj (fresh.format i m inside) (fresh.format j n inside') keys
    exact fresh.distinct i j m inside n inside' uuids
  · intro i e answered
    refine (uploadAnswer_error answered).imp id ?_
    rintro ⟨n, message, mem, rfl⟩
    exact ⟨n, message, (kept schedule).failures i n message mem, rfl⟩
  · intro key
    refine (whole.objects key).imp id ?_
    rintro ⟨i, n, object, put, stored⟩
    obtain ⟨folder, file, checked, found, -, same, rfl⟩ := put?_eq_some put
    exact ⟨i, n, folder, file, checked, found, same, stored⟩

end Runs

/-- A profile image, and two images at once. -/
def sampleUploads (second : Bool) : UploadRequest :=
  if second then
    ⟨.images [⟨"a.jpg", "image/jpeg", [2]⟩, ⟨"b.tar.png", "image/png", [3]⟩], none, fun n =>
      if n = 0 then "9b2e1f04-7a51-4c3e-8d20-5f6a7b8c9d01"
      else "9b2e1f04-7a51-4c3e-8d20-5f6a7b8c9d02"⟩
  else
    ⟨.image (some ⟨"me.png", "image/png", [1]⟩), some (.str "profile"), fun _ =>
      "9b2e1f04-7a51-4c3e-8d20-5f6a7b8c9d03"⟩

theorem sampleUploads_fresh : FreshUuids sampleUploads := by
  constructor <;> decide +kernel

/-- The second file of two arrives first, while the other request is still at work. -/
theorem images_stored :
    let machine := interleave (uploadStep (fun _ => .ok ()) sampleUploads)
    let now := machine.run (startUploads fun _ => none)
      [(true, 1, .arrives), (false, 0, .arrives), (true, 1, .settles none), (true, 0, .arrives),
        (true, 0, .settles none)]
    let final := machine.run now [(false, 0, .settles (some "timeout"))]
    ∃ folder name, '/' ∉ name.toList ∧
      "https://cdn.x.kr/common/9b2e1f04-7a51-4c3e-8d20-5f6a7b8c9d02.png" =
        AwsConfig.buildPublicUrl ⟨"bucket", "ap-northeast-2", some "https://cdn.x.kr/"⟩
          (UploadFolder.text folder ++ "/" ++ name) ∧
      final.store (UploadFolder.text folder ++ "/" ++ name) = some ⟨[3], "image/png"⟩ := by
  intro machine now final
  obtain ⟨-, -, stored⟩ := (@uploads_stored Bool (fun _ => .ok ())
    ⟨"bucket", "ap-northeast-2", some "https://cdn.x.kr/"⟩ sampleUploads _ sampleUploads_fresh
    (fun _ => none)
    [(true, 1, .arrives), (false, 0, .arrives), (true, 1, .settles none), (true, 0, .arrives),
      (true, 0, .settles none)] [(false, 0, .settles (some "timeout"))]).1 true
    ["https://cdn.x.kr/common/9b2e1f04-7a51-4c3e-8d20-5f6a7b8c9d01.jpg",
      "https://cdn.x.kr/common/9b2e1f04-7a51-4c3e-8d20-5f6a7b8c9d02.png"] (by decide +kernel)
  obtain ⟨folder, name, -, plain, url, object⟩ := stored 1 ⟨"b.tar.png", "image/png", [3]⟩ rfl
  exact ⟨folder, name, plain, Option.some.inj url, object⟩

end CoupangEats
