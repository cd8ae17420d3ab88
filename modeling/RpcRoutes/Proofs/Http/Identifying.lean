import RpcRoutes.Proofs.Http.Passing

/-!
# Request ids

A request gets one id, which what handles it finds in its header and beside it, and which its
response repeats. Layers that are put around one another agree on it: the outermost picks the id,
and to the others the request brings it.

* `Handler.GetsId` says which id a request gets, `isUuid` what a fresh id looks like.
* `Request.identified` and `Response.identified` are what the layer makes of a request and of a
  response; `Handler.withRequestId_eq` says so.
* `Handler.withRequestId_withRequestId`: a second layer changes nothing.
* `Handler.requestId_consistent`: any stack of standard layers with this one among them does what
  one layer does.
-/

namespace RpcRoutes

/-! ### Ids -/

/-- A text of hexadecimal digits in groups of 8, 4, 4, 4 and 12, with dashes between them. -/
def isUuid (text : String) : Bool :=
  (text.toList.splitOn '-').map List.length == [8, 4, 4, 4, 12] &&
    text.toList.all fun c => "0123456789abcdef-".toList.contains c

/-- A text that a request can bring as its id: visible ASCII characters, blanks and tabs, and at
least one of them. -/
def IsRequestId (id : String) : Prop := isPlainText id = true ∧ id ≠ ""

theorem isPlainText_of_isUuid {id : String} (uuid : isUuid id = true) :
    isPlainText id = true := by
  have plain : isPlainText "0123456789abcdef-" = true := by decide
  rw [isPlainText, List.all_eq_true] at plain ⊢
  intro c mem
  have digit := List.all_eq_true.mp (Bool.and_eq_true_iff.mp uuid).2 c mem
  exact plain c (List.contains_iff_mem.mp digit)

theorem isRequestId_of_isUuid {id : String} (uuid : isUuid id = true) : IsRequestId id := by
  refine ⟨isPlainText_of_isUuid uuid, ?_⟩
  rintro rfl
  exact absurd uuid (by decide)

open Handler (requestIdHeader)

/-- The request with an id in its header and beside it. -/
def Request.identified (req : Request) (id : String) : Request :=
  { req with headers := req.headers.put requestIdHeader id, requestId := some id }

/-- The response with an id in its header. -/
def Response.identified (res : Response) (id : String) : Response :=
  { res with headers := res.headers.put requestIdHeader id }

@[simp] theorem Request.identified_identified (req : Request) (id : String) :
    (req.identified id).identified id = req.identified id := by
  simp only [identified, Headers.put_put]

@[simp] theorem Response.identified_identified (res : Response) (id : String) :
    (res.identified id).identified id = res.identified id := by
  simp only [identified, Headers.put_put]

namespace Handler

/-! ### The id of a request -/

/-- The id that a request gets, and the exchange once it has it: the first value of its header
when that can be an id, and else a fresh one. -/
inductive GetsId (req : Request) (x : Exchange) : String → Exchange → Prop where
  | brought {id : String} (first : req.headers.first? requestIdHeader = some id)
      (usable : IsRequestId id) : GetsId req x id x
  | generated (unusable : ∀ id, req.headers.first? requestIdHeader = some id → ¬ IsRequestId id) :
      GetsId req x (x.ids x.drawn) { x with drawn := x.drawn + 1 }

variable {req : Request} {x after : Exchange} {id : String} {inner : Handler}

theorem broughtId?_eq_some_iff : broughtId? req = some id ↔
    req.headers.first? requestIdHeader = some id ∧ IsRequestId id := by
  simp [broughtId?, IsRequestId, Option.filter_eq_some_iff]

/-- Every request gets an id; it can be one if a fresh one would be. -/
theorem exists_getsId (req : Request) {x : Exchange} (uuid : isUuid (x.ids x.drawn) = true) :
    ∃ id after, GetsId req x id after ∧ IsRequestId id := by
  cases brings : broughtId? req with
  | some id =>
      obtain ⟨first, usable⟩ := broughtId?_eq_some_iff.mp brings
      exact ⟨id, x, .brought first usable, usable⟩
  | none =>
      refine ⟨_, _, .generated ?_, isRequestId_of_isUuid uuid⟩
      intro id first usable
      rw [broughtId?_eq_some_iff.mpr ⟨first, usable⟩] at brings
      cases brings

/-- An identified request brings its id. -/
theorem getsId_identified (usable : IsRequestId id) : GetsId (req.identified id) x id x :=
  .brought (Headers.first?_put req.headers requestIdHeader id) usable

/-- The layer handles the identified request and identifies the response. -/
theorem withRequestId_eq (gets : GetsId req x id after) (usable : IsRequestId id) :
    withRequestId inner req x =
      ((inner (req.identified id) after).1.identified id, (inner (req.identified id) after).2) := by
  have value := isHeaderValue_of_isPlainText usable.1
  cases gets with
  | brought first _ =>
      simp only [withRequestId, broughtId?_eq_some_iff.mpr ⟨first, usable⟩, value, if_true]
      rfl
  | generated unusable =>
      have brings : broughtId? req = none := by
        rw [Option.eq_none_iff_forall_ne_some]
        intro id brought
        obtain ⟨first, usable⟩ := broughtId?_eq_some_iff.mp brought
        exact unusable id first usable
      simp only [withRequestId, brings, Exchange.draw, value, if_true]
      rfl

/-! ### Layers around each other -/

/-- A second layer changes nothing. -/
theorem withRequestId_withRequestId (gets : GetsId req x id after) (usable : IsRequestId id) :
    withRequestId (withRequestId inner) req x = withRequestId inner req x := by
  rw [withRequestId_eq gets usable, withRequestId_eq (getsId_identified usable) usable,
    withRequestId_eq gets usable, Request.identified_identified, Response.identified_identified]

theorem foldr_wrap_accessLog {layers : List (Middleware Handler)}
    (reporting : ∀ m ∈ layers, m = accessLog) :
    layers.foldr (fun m inner => m.wrap inner) inner = inner := by
  induction layers with
  | nil => rfl
  | cons m layers ih =>
      obtain ⟨rfl, others⟩ := List.forall_mem_cons.mp reporting
      exact ih others

/-- Standard layers with the one for ids among them do what that one does. -/
theorem foldr_wrap_eq {layers : List (Middleware Handler)}
    (standard : ∀ m ∈ layers, m ∈ [requestId, accessLog]) (installed : requestId ∈ layers)
    (gets : GetsId req x id after) (usable : IsRequestId id) :
    layers.foldr (fun m inner => m.wrap inner) inner req x = withRequestId inner req x := by
  induction layers generalizing req x after with
  | nil => cases installed
  | cons m layers ih =>
      obtain ⟨first, others⟩ := List.forall_mem_cons.mp standard
      rw [List.foldr_cons]
      rcases List.mem_cons.mp first with rfl | first
      · by_cases again : requestId ∈ layers
        · -- The request brings its id to the layers further inside.
          have inside : layers.foldr (fun m inner => m.wrap inner) inner (req.identified id) after =
              withRequestId inner (req.identified id) after :=
            ih others again (getsId_identified usable)
          calc withRequestId (layers.foldr (fun m inner => m.wrap inner) inner) req x
              = withRequestId (withRequestId inner) req x := by
                rw [withRequestId_eq gets usable, withRequestId_eq gets usable, inside]
            _ = withRequestId inner req x := withRequestId_withRequestId gets usable
        · have reporting : ∀ m ∈ layers, m = accessLog := by
            intro m mem
            rcases List.mem_cons.mp (others m mem) with rfl | rest
            · exact absurd mem again
            · exact List.mem_singleton.mp rest
          rw [foldr_wrap_accessLog reporting]
          rfl
      · obtain rfl := List.mem_singleton.mp first
        refine ih others ((List.mem_cons.mp installed).resolve_left ?_) gets
        intro same
        exact absurd (congrArg Middleware.name same) (by decide)

/-- A request gets an id, its own one or a fresh one. In any stack of standard layers with the one
for ids among them, the handler is given the request with this id as the only value of the header
and beside it, and the response has the id as the only value of the header, whatever the handler
put there. The stack does nothing that one layer does not do, so no second id is drawn. -/
theorem requestId_consistent (req : Request) {x : Exchange}
    (uuid : isUuid (x.ids x.drawn) = true) :
    ∃ id after, GetsId req x id after ∧
      (req.identified id).headers.filter (fun h => h.1 == requestIdHeader) =
        [(requestIdHeader, id)] ∧
      (req.identified id).requestId = some id ∧
      ∀ (inner : Handler) (group own : List (Middleware Handler)),
        (∀ m ∈ group ++ own, m ∈ [requestId, accessLog]) → requestId ∈ group ++ own →
          Middleware.compose inner group own req x =
            ((inner (req.identified id) after).1.identified id,
              (inner (req.identified id) after).2) ∧
          (Middleware.compose inner group own req x).1.headers.filter
            (fun h => h.1 == requestIdHeader) = [(requestIdHeader, id)] ∧
          Middleware.compose inner group own req x = withRequestId inner req x := by
  obtain ⟨id, after, gets, usable⟩ := exists_getsId req uuid
  refine ⟨id, after, gets, Headers.filter_put _ _ _, rfl, ?_⟩
  intro inner group own standard installed
  have once : Middleware.compose inner group own req x = withRequestId inner req x := by
    rw [Middleware.compose_eq_foldr]
    refine foldr_wrap_eq ?_ ?_ gets usable
    · simpa using standard
    · simpa using installed
  have answered := once.trans (withRequestId_eq gets usable)
  refine ⟨answered, ?_, once⟩
  rw [answered]
  exact Headers.filter_put _ _ _

/-- The first value of the header cannot be an id, so a fresh one replaces both values. Whatever the
handler answers, the response leaves three such layers with this id, which only one of them drew. -/
theorem requestId_consistent_stacked :
    ∃ (req : Request) (x : Exchange) (id : String), isUuid (x.ids x.drawn) = true ∧
      req.headers = [(requestIdHeader, "é"), ("accept", "*/*"), (requestIdHeader, "second")] ∧
      GetsId req x id { x with drawn := 1 } ∧
      ∀ (inner : Handler) (answer : Response × Exchange),
        Middleware.compose inner [accessLog, requestId, accessLog]
          [requestId, accessLog, requestId] req x = answer →
        answer.1.headers.filter (fun h => h.1 == requestIdHeader) = [(requestIdHeader, id)] ∧
          answer.2 = (inner (req.identified id) { x with drawn := 1 }).2 := by
  have uuid : isUuid ((Exchange.start fun _ => "5d0c7a1e-93b4-4f62-8e0d-1b2a3c4d5e6f").ids 0) =
      true := by decide
  obtain ⟨id, after, gets, _, _, stacked⟩ := requestId_consistent
    ⟨"GET", "/x", [(requestIdHeader, "é"), ("accept", "*/*"), (requestIdHeader, "second")], none,
      none⟩ uuid
  have gets' := gets
  cases gets with
  | brought first usable =>
      obtain rfl := Option.some.inj first
      exact absurd usable.1 (by decide)
  | generated unusable =>
      refine ⟨_, _, _, uuid, rfl, gets', ?_⟩
      rintro inner _ rfl
      obtain ⟨answered, repeated, _⟩ := stacked inner [accessLog, requestId, accessLog]
        [requestId, accessLog, requestId] (by simp) (by simp)
      refine ⟨repeated, ?_⟩
      rw [answered]
      rfl

end Handler

end RpcRoutes
