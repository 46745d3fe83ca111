import RangeCatalog.Proofs.Fetch.Body
import RangeCatalog.Proofs.Fetch.Redirects

/-! # The limit on the size of a body

When a body is too large. The declared size is checked first and the pieces as they arrive, and both checks
together say no more than that the declared size or the whole body is beyond the limit. What has been kept
of a body never is. How the body is cut into pieces decides only which size the error tells.
-/

namespace RangeCatalog

namespace Response

variable {response : Response} {url : String} {max : Nat}

/-! ## Kept octets -/

/-- Whether some octets are what has been kept of a body after some of its pieces. -/
def Keeps (response : Response) (max : Nat) (kept : List UInt8) : Prop :=
  ∃ read rest, response.bodyPieces = read ++ rest ∧ read.foldlM (appendPiece max) [] = .ok kept

/-- What is kept is the beginning of the body, and within the limit. -/
theorem Keeps.within {kept : List UInt8} (keeps : response.Keeps max kept) :
    kept <+: response.body ∧ kept.length ≤ max := by
  obtain ⟨read, rest, whole, passed⟩ := keeps
  obtain ⟨rfl, fits⟩ := (foldlM_appendPiece_eq_ok_iff (Nat.zero_le max)).mp passed
  refine ⟨⟨rest.flatten, ?_⟩, fits⟩
  rw [body, whole, List.flatten_append, List.nil_append]

/-! ## Payloads -/

private theorem Outgrows.payload (outgrows : response.Outgrows max) (success : response.isSuccess = true) :
    ∃ size, max < size ∧ response.payload url max = .error (.tooLarge url size max) := by
  obtain ⟨size, beyond, refused⟩ := outgrows.readBody
  refine ⟨size, beyond, ?_⟩
  rw [Response.payload, if_pos success, refused]
  rfl

private theorem payload_of_within (within : ¬response.Outgrows max) (success : response.isSuccess = true) :
    response.payload url max = if response.isComplete then Payload.ofBody url response.body
      else .error (.network url FetchError.transportReason) := by
  rw [Response.payload, if_pos success, readBody_of_within within]
  split <;> rfl

private theorem payload_of_failure (failure : response.isSuccess = false) :
    response.payload url max = .error (.httpStatus url response.status) := by
  rw [Response.payload, failure]
  rfl

/-- An error of size is told of successes beyond the limit alone, and tells the limit and a size beyond it. -/
theorem payload_eq_tooLarge {named : String} {size bound : Nat}
    (refused : response.payload url max = .error (.tooLarge named size bound)) :
    response.Outgrows max ∧ max < size ∧ bound = max ∧ named = url := by
  cases success : response.isSuccess with
  | false =>
    rw [payload_of_failure success] at refused
    cases refused
  | true =>
    by_cases outgrows : response.Outgrows max
    · obtain ⟨told, beyond, same⟩ : ∃ told, max < told ∧
          response.payload url max = .error (.tooLarge url told max) := outgrows.payload success
      rw [same] at refused
      cases refused
      exact ⟨outgrows, beyond, rfl, rfl⟩
    · rw [payload_of_within outgrows success] at refused
      split at refused
      · rcases Payload.ofBody_eq_error refused with malformed | scalar
        · cases malformed
        · cases scalar
      · cases refused

/-! ## Cutting -/

/-- The octets of a body do not depend on how they are cut into pieces. -/
theorem flatten_takeOctets (count : Nat) (pieces : List (List UInt8)) :
    (takeOctets count pieces).flatten = pieces.flatten.take count := by
  induction pieces generalizing count with
  | nil => simp [takeOctets]
  | cons piece rest ih =>
    rw [takeOctets, List.flatten_cons, List.flatten_cons, ih, List.take_append]

private theorem body_eq (response : Response) :
    response.body = if response.hasBody then
      (response.declared.map fun size => response.pieces.flatten.take size).getD response.pieces.flatten
      else [] := by
  rw [body, bodyPieces]
  split
  · cases response.declared with
    | none => rfl
    | some size => exact flatten_takeOctets size response.pieces
  · rfl

/-- Two answers that differ at most in how their bodies are cut into pieces. -/
def Recut (response other : Response) : Prop :=
  ∃ pieces, pieces.flatten = response.pieces.flatten ∧ other = { response with pieces }

namespace Recut

variable {other : Response}

private theorem body_eq (recut : response.Recut other) : other.body = response.body := by
  obtain ⟨pieces, same, rfl⟩ := recut
  rw [Response.body_eq, Response.body_eq, same]
  rfl

private theorem isSuccess_eq (recut : response.Recut other) : other.isSuccess = response.isSuccess := by
  obtain ⟨pieces, _, rfl⟩ := recut
  rfl

private theorem bodySize?_eq (recut : response.Recut other) : other.bodySize? = response.bodySize? := by
  obtain ⟨pieces, _, rfl⟩ := recut
  rfl

private theorem isComplete_eq (recut : response.Recut other) : other.isComplete = response.isComplete := by
  have octets : other.bodyPieces.flatten = response.bodyPieces.flatten := recut.body_eq
  have size := recut.bodySize?_eq
  obtain ⟨pieces, _, rfl⟩ := recut
  rw [isComplete, isComplete, size, octets]

private theorem outgrows_iff (recut : response.Recut other) : other.Outgrows max ↔ response.Outgrows max := by
  rw [Outgrows, Outgrows, recut.bodySize?_eq, recut.body_eq]

/-- What is made of a body within the limit does not depend on its pieces. -/
theorem payload_eq (recut : response.Recut other) (within : ¬response.Outgrows max)
    (success : response.isSuccess = true) : other.payload url max = response.payload url max := by
  have otherWithin : ¬other.Outgrows max := fun beyond => within (recut.outgrows_iff.mp beyond)
  have otherSuccess : other.isSuccess = true := recut.isSuccess_eq.trans success
  rw [payload_of_within within success, payload_of_within otherWithin otherSuccess, recut.isComplete_eq,
    recut.body_eq]

end Recut

end Response

/-! ## Fetches -/

namespace Client

variable {network : Network} {max : Nat} {text : String} {start : Url} {response : Response}

/-- Whether a fetch fails because the body is too large. -/
def Exchange.TooLarge (exchange : Exchange) : Prop :=
  ∃ url size bound, exchange.result = .error (.tooLarge url size bound)

private theorem result_of_answered (max : Nat) (read : Url.ofText text = .ok start) (permitted : start.Permitted)
    (answered : (chase network [] start).outcome = .answered response) :
    (fetch network max text).result = response.payload text max := by
  rw [fetch_of_permitted read permitted]
  show (chase network [] start).outcome.payload text max = response.payload text max
  rw [answered, Outcome.payload]

/-- The size is the reason exactly for successes beyond the limit. -/
theorem tooLarge_iff (success : response.isSuccess = true)
    (result : (fetch network max text).result = response.payload text max) :
    (fetch network max text).TooLarge ↔ response.Outgrows max := by
  rw [Exchange.TooLarge, result]
  constructor
  · rintro ⟨named, size, bound, refused⟩
    exact (Response.payload_eq_tooLarge refused).1
  · intro outgrows
    obtain ⟨size, _, refused⟩ := outgrows.payload success
    exact ⟨text, size, max, refused⟩

/-- Where a chain of requests ends with a success, the fetch fails for the size of the body exactly when
the declared size or the number of all octets is beyond the limit, and otherwise yields what the whole body
holds when all of it arrives. The error tells the limit and a size beyond it, and no more octets than the
limit are kept at any time. How the body is cut into pieces decides neither whether this happens nor what
the fetch yields otherwise. An answer that is no success yields its status, whatever its body. -/
theorem size_limit_exact (network : Network) (max : Nat) (text : String) (start : Url)
    (response : Response) (read : Url.ofText text = .ok start) (permitted : start.Permitted)
    (answered : (chase network [] start).outcome = .answered response) :
    (response.isSuccess = true →
      ((fetch network max text).TooLarge ↔
        (∃ size, response.bodySize? = some size ∧ max < size) ∨ max < response.body.length) ∧
      (response.isComplete = true → ¬(fetch network max text).TooLarge →
        (fetch network max text).result = Payload.ofBody text response.body) ∧
      ∀ (otherNetwork : Network) (other : Response), response.Recut other →
        (chase otherNetwork [] start).outcome = .answered other →
          ((fetch otherNetwork max text).TooLarge ↔ (fetch network max text).TooLarge) ∧
          (¬(fetch network max text).TooLarge →
            (fetch otherNetwork max text).result = (fetch network max text).result)) ∧
    (∀ url size bound, (fetch network max text).result = .error (.tooLarge url size bound) →
      url = text ∧ max < size ∧ bound = max) ∧
    (∀ kept, response.Keeps max kept → kept.length ≤ max) ∧
    (response.isSuccess = false →
      (fetch network max text).result = .error (.httpStatus text response.status)) := by
  have result := result_of_answered max read permitted answered
  refine ⟨?_, ?_, fun kept keeps => keeps.within.2, ?_⟩
  · intro success
    have beyond := tooLarge_iff success result
    refine ⟨beyond, ?_, ?_⟩
    · intro complete fits
      rw [result, Response.payload_of_within (fits ∘ beyond.mpr) success, if_pos complete]
    · intro otherNetwork other recut otherAnswered
      have otherResult := result_of_answered max read permitted otherAnswered
      have otherBeyond := tooLarge_iff (recut.isSuccess_eq.trans success) otherResult
      refine ⟨otherBeyond.trans (recut.outgrows_iff.trans beyond.symm), ?_⟩
      intro fits
      rw [result, otherResult, recut.payload_eq (fits ∘ beyond.mpr) success]
  · intro url size bound refused
    rw [result] at refused
    obtain ⟨_, told, same, named⟩ := Response.payload_eq_tooLarge refused
    exact ⟨named, told, same⟩
  · intro failure
    rw [result, Response.payload_of_failure failure]

/-- An answer of undeclared size with the given pieces. -/
def streamed (pieces : List (List UInt8)) : Response :=
  { status := 200, headers := [], declared := none, pieces, ended := true }

/-- Servers that give this answer everywhere. -/
def streamingNetwork (pieces : List (List UInt8)) : Network :=
  fun _ => some (streamed pieces)

/-- Two octets are one too many for a limit of one, however they arrive, and none too many for a limit of
two. -/
theorem size_limit_exact_at_bound :
    let start := documentUrl "https" "" "gptbot.json"
    let text := "https://openai.com/gptbot.json"
    let network := streamingNetwork [[0x7b], [], [0x7d]]
    (Url.ofText text = .ok start ∧ start.Permitted ∧
      (chase network [] start).outcome = .answered (streamed [[0x7b], [], [0x7d]]) ∧
      (streamed [[0x7b], [], [0x7d]]).Recut (streamed [[0x7b, 0x7d]]) ∧
      (streamed [[0x7b], [], [0x7d]]).Keeps 1 [0x7b]) ∧
    (fetch network 2 text).result = .ok ⟨[]⟩ ∧
    (fetch network 1 text).TooLarge ∧ (fetch (streamingNetwork [[0x7b, 0x7d]]) 1 text).TooLarge := by
  intro start text network
  have read : Url.ofText text = .ok start := by decide +kernel
  have permitted : start.Permitted := ⟨rfl, .inl rfl⟩
  have ends (pieces : List (List UInt8)) :
      (chase (streamingNetwork pieces) [] start).outcome = .answered (streamed pieces) :=
    congrArg Chain.outcome (chase_of_final rfl rfl)
  have recut : (streamed [[0x7b], [], [0x7d]]).Recut (streamed [[0x7b, 0x7d]]) := ⟨[[0x7b, 0x7d]], rfl, rfl⟩
  have keeps : (streamed [[0x7b], [], [0x7d]]).Keeps 1 [0x7b] := ⟨[[0x7b], []], [[0x7d]], rfl, rfl⟩
  obtain ⟨atTwo, _, _, _⟩ := size_limit_exact network 2 text start _ read permitted (ends _)
  obtain ⟨atOne, _, _, _⟩ := size_limit_exact network 1 text start _ read permitted (ends _)
  obtain ⟨beyondTwo, document, _⟩ := atTwo rfl
  obtain ⟨beyondOne, _, others⟩ := atOne rfl
  have fits : ¬(fetch network 2 text).TooLarge := by
    rw [beyondTwo]
    rintro (⟨size, declared, _⟩ | beyond)
    · cases declared
    · exact absurd beyond (by decide)
  have outgrown : (fetch network 1 text).TooLarge := beyondOne.mpr (.inr (by decide))
  refine ⟨⟨read, permitted, ends _, recut, keeps⟩, ?_, outgrown, (others _ _ recut (ends _)).1.mpr outgrown⟩
  rw [document rfl fits]
  decide +kernel

end Client

end RangeCatalog
