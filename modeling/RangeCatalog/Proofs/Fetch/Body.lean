import RangeCatalog.Fetch.Response
import RangeCatalog.Proofs.Outcome

/-! # Delivered documents

When an answer delivers a document. Its body must be complete, keep within the limit and be a JSON object.
The size is checked twice, but the two checks amount to one on the whole body, and how the body is cut into
pieces does not matter.
-/

namespace RangeCatalog

theorem Payload.ofBody_eq_ok_iff {url : String} {body : List UInt8} {payload : Payload} :
    ofBody url body = .ok payload ↔ Json.ofOctets? body = some payload.toJson := by
  rw [ofBody, toJson]
  cases Json.ofOctets? body with
  | none => simp
  | some value =>
    cases value with
    | object fields =>
      obtain ⟨present⟩ := payload
      simp [ofJson]
    | _ => simp [ofJson]

theorem Payload.ofBody_eq_error {url : String} {body : List UInt8} {error : FetchError}
    (failed : ofBody url body = .error error) :
    error = .invalidJson url malformed ∨ error = .notAnObject url := by
  rw [ofBody] at failed
  cases read : Json.ofOctets? body with
  | none =>
    rw [read] at failed
    exact .inl (Except.error.inj failed).symm
  | some value =>
    rw [read] at failed
    cases value with
    | object fields => contradiction
    | _ => exact .inr (Except.error.inj failed).symm

namespace Response

variable {response : Response} {url : String} {max : Nat}

/-- The octets of the body. -/
def body (response : Response) : List UInt8 :=
  response.bodyPieces.flatten

/-- Whether an answer delivers a document whose body may have `max` octets. -/
structure Delivers (response : Response) (max : Nat) (payload : Payload) : Prop where
  success : 200 ≤ response.status ∧ response.status ≤ 299
  complete : response.isComplete = true
  within : response.body.length ≤ max
  document : Json.ofOctets? response.body = some payload.toJson

/-- Whether the declared size or the whole body is beyond the limit. -/
def Outgrows (response : Response) (max : Nat) : Prop :=
  (∃ size, response.bodySize? = some size ∧ max < size) ∨ max < response.body.length

/-! ## Pieces -/

theorem appendPiece_eq_ok_iff {body piece longer : List UInt8} :
    appendPiece max body piece = .ok longer ↔ longer = body ++ piece ∧ longer.length ≤ max := by
  have size : (body ++ piece).length = body.length + piece.length := List.length_append
  simp only [appendPiece]
  split_ifs with outgrown
  · constructor
    · intro appended
      contradiction
    · rintro ⟨rfl, within⟩
      omega
  · constructor
    · rintro ⟨⟩
      exact ⟨rfl, by omega⟩
    · rintro ⟨rfl, _⟩
      rfl

/-- What has been read never outgrows the limit, so that the last size decides. -/
theorem foldlM_appendPiece_eq_ok_iff {pieces : List (List UInt8)} {body whole : List UInt8}
    (room : body.length ≤ max) :
    pieces.foldlM (appendPiece max) body = .ok whole ↔
      whole = body ++ pieces.flatten ∧ whole.length ≤ max := by
  induction pieces generalizing body with
  | nil =>
    simp only [List.foldlM_nil, pure, Except.pure, Except.ok.injEq, List.flatten_nil, List.append_nil]
    constructor
    · rintro rfl
      exact ⟨rfl, room⟩
    · rintro ⟨rfl, _⟩
      rfl
  | cons piece rest ih =>
    rw [List.foldlM_cons, bind_eq_ok_iff, List.flatten_cons, ← List.append_assoc]
    constructor
    · rintro ⟨longer, appended, read⟩
      obtain ⟨rfl, fits⟩ := appendPiece_eq_ok_iff.mp appended
      exact (ih fits).mp read
    · rintro ⟨rfl, within⟩
      have fits : (body ++ piece).length ≤ max := by
        rw [List.length_append] at within
        omega
      exact ⟨_, appendPiece_eq_ok_iff.mpr ⟨rfl, fits⟩, (ih fits).mpr ⟨rfl, within⟩⟩

private theorem appendPiece_eq_error {kept piece : List UInt8} {size : Nat}
    (failed : appendPiece max kept piece = .error size) : max < size := by
  rw [appendPiece] at failed
  split_ifs at failed with outgrown
  rw [← Except.error.inj failed]
  exact outgrown

/-- The size that is told is beyond the limit, wherever the loop stops. -/
theorem foldlM_appendPiece_eq_error {pieces : List (List UInt8)} {kept : List UInt8} {size : Nat}
    (failed : pieces.foldlM (appendPiece max) kept = .error size) : max < size := by
  induction pieces generalizing kept with
  | nil => contradiction
  | cons piece rest ih =>
    rw [List.foldlM_cons] at failed
    rcases bind_eq_error_iff.mp failed with here | ⟨longer, _, later⟩
    · exact appendPiece_eq_error here
    · exact ih later

/-- The loop stops at some piece exactly when the whole body is beyond the limit. -/
theorem exists_foldlM_eq_error_iff {pieces : List (List UInt8)} :
    (∃ size, pieces.foldlM (appendPiece max) [] = .error size) ↔ max < pieces.flatten.length := by
  have accepts := @foldlM_appendPiece_eq_ok_iff max pieces [] pieces.flatten (Nat.zero_le max)
  rw [List.nil_append, eq_self_iff_true, true_and] at accepts
  cases passed : pieces.foldlM (appendPiece max) [] with
  | error size =>
    have beyond : ¬pieces.flatten.length ≤ max := by
      rw [← accepts, passed]
      exact nofun
    exact iff_of_true ⟨size, rfl⟩ (Nat.lt_of_not_le beyond)
  | ok kept =>
    obtain ⟨same, within⟩ := (foldlM_appendPiece_eq_ok_iff (Nat.zero_le max)).mp passed
    rw [same, List.nil_append] at within
    refine iff_of_false ?_ (Nat.not_lt_of_le within)
    rintro ⟨size, failed⟩
    contradiction

/-! ## Bodies -/

/-- Where no size beyond the limit is declared, the pieces decide. -/
theorem readBody_eq_of_declared (allowed : ∀ size, response.bodySize? = some size → size ≤ max) :
    response.readBody url max =
      (response.bodyPieces.foldlM (appendPiece max) []).mapError (.tooLarge url · max) >>= fun kept =>
        if response.isComplete then .ok kept else .error (.network url FetchError.transportReason) := by
  rw [readBody]
  cases declared : response.bodySize? with
  | none => rfl
  | some size =>
    have fits : ¬max < size := Nat.not_lt_of_le (allowed size declared)
    simp only [if_neg fits]
    rfl

/-- A body beyond the limit in either way is refused, before anything is said of its end. -/
theorem Outgrows.readBody (outgrows : response.Outgrows max) :
    ∃ size, max < size ∧ response.readBody url max = .error (.tooLarge url size max) := by
  by_cases declared : ∃ size, response.bodySize? = some size ∧ max < size
  · obtain ⟨size, told, beyond⟩ := declared
    refine ⟨size, beyond, ?_⟩
    rw [Response.readBody]
    simp only [told, if_pos beyond]
    rfl
  · have allowed : ∀ size, response.bodySize? = some size → size ≤ max :=
      fun size told => Nat.le_of_not_lt fun beyond => declared ⟨size, told, beyond⟩
    obtain ⟨size, failed⟩ := exists_foldlM_eq_error_iff.mpr (outgrows.resolve_left declared)
    refine ⟨size, foldlM_appendPiece_eq_error failed, ?_⟩
    rw [readBody_eq_of_declared allowed, failed]
    rfl

/-- A body within the limit is read whole when it is complete, and lost else. -/
theorem readBody_of_within (within : ¬response.Outgrows max) :
    response.readBody url max = if response.isComplete then .ok response.body
      else .error (.network url FetchError.transportReason) := by
  have allowed : ∀ size, response.bodySize? = some size → size ≤ max :=
    fun size told => Nat.le_of_not_lt fun beyond => within (.inl ⟨size, told, beyond⟩)
  have fits : response.body.length ≤ max := Nat.le_of_not_lt fun beyond => within (.inr beyond)
  have kept : response.bodyPieces.foldlM (appendPiece max) [] = .ok response.body :=
    (foldlM_appendPiece_eq_ok_iff (Nat.zero_le max)).mpr ⟨rfl, fits⟩
  rw [readBody_eq_of_declared allowed, kept]
  rfl

/-- A declared size of a complete body is its size. -/
theorem length_body_of_declared {size : Nat} (complete : response.isComplete = true)
    (declared : response.bodySize? = some size) : response.body.length = size := by
  rw [isComplete, declared] at complete
  exact of_decide_eq_true complete

/-- A complete body is beyond the limit in both ways or in none. -/
theorem not_outgrows_of_complete (complete : response.isComplete = true)
    (within : response.body.length ≤ max) : ¬response.Outgrows max := by
  rintro (⟨size, declared, beyond⟩ | beyond)
  · have whole := length_body_of_declared complete declared
    omega
  · omega

/-- A body is read when it is complete and keeps within the limit, whatever size is declared. -/
theorem readBody_eq_ok_iff {whole : List UInt8} :
    response.readBody url max = .ok whole ↔
      whole = response.body ∧ response.isComplete = true ∧ response.body.length ≤ max := by
  constructor
  · intro read
    by_cases outgrows : response.Outgrows max
    · obtain ⟨size, _, refused⟩ := outgrows.readBody
      exact absurd (refused.symm.trans read) nofun
    · rw [readBody_of_within outgrows] at read
      split_ifs at read with complete
      cases read
      exact ⟨rfl, complete, Nat.le_of_not_lt fun beyond => outgrows (.inr beyond)⟩
  · rintro ⟨rfl, complete, within⟩
    rw [readBody_of_within (not_outgrows_of_complete complete within), if_pos complete]

theorem payload_eq_ok_iff {payload : Payload} :
    response.payload url max = .ok payload ↔ response.Delivers max payload := by
  have success : response.isSuccess = true ↔ 200 ≤ response.status ∧ response.status ≤ 299 := by
    simp [isSuccess]
  rw [Response.payload]
  split_ifs with found
  · simp only [bind_eq_ok_iff, readBody_eq_ok_iff, Payload.ofBody_eq_ok_iff]
    constructor
    · rintro ⟨_, ⟨rfl, complete, within⟩, document⟩
      exact ⟨success.mp found, complete, within, document⟩
    · intro delivers
      exact ⟨_, ⟨rfl, delivers.complete, delivers.within⟩, delivers.document⟩
  · constructor
    · intro read
      contradiction
    · intro delivers
      exact absurd (success.mpr delivers.success) found

/-! ## Lost documents -/

private theorem readBody_eq_error {error : FetchError} (failed : response.readBody url max = .error error) :
    (∃ size, error = .tooLarge url size max) ∨ error = .network url FetchError.transportReason := by
  by_cases outgrows : response.Outgrows max
  · obtain ⟨size, _, refused⟩ := outgrows.readBody
    exact .inl ⟨size, Except.error.inj (failed.symm.trans refused)⟩
  · rw [readBody_of_within outgrows] at failed
    split_ifs at failed
    exact .inr (Except.error.inj failed).symm

/-- How an answer delivers no document: by its status, by the size of its body, by its end or by what it
holds. -/
theorem payload_eq_error {error : FetchError} (failed : response.payload url max = .error error) :
    (∃ status, error = .httpStatus url status) ∨ (∃ size, error = .tooLarge url size max) ∨
      error = .network url FetchError.transportReason ∨ error = .invalidJson url Payload.malformed ∨
      error = .notAnObject url := by
  rw [Response.payload] at failed
  split_ifs at failed
  · rcases bind_eq_error_iff.mp failed with unread | ⟨body, _, malformed⟩
    · rcases readBody_eq_error unread with outgrown | lost
      · exact .inr (.inl outgrown)
      · exact .inr (.inr (.inl lost))
    · exact .inr (.inr (.inr (Payload.ofBody_eq_error malformed)))
  · exact .inl ⟨response.status, (Except.error.inj failed).symm⟩

end Response

end RangeCatalog
