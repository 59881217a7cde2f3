import ModelGateway.Proofs.Decoding.Discarded

/-!
# When an image is shown

A response shows its image only when its first artifact reports success and gives an image. What else
can become of a response is decided by the shape of that artifact alone, so the image of an artifact
that does not report success leaves no trace in the result, and neither does any later artifact.
-/
namespace ModelGateway.StableDiffusion

/-- The first artifact of a response, if its artifacts are a list that has one. -/
def firstArtifact? (o : Object) : Option Value :=
  match Object.value o "artifacts" with
  | .list (first :: _) => some first
  | _ => none

/-- What a status says of the response that it is given for. -/
def Means (o : Object) : ImageStatus → Prop
  | .noData => firstArtifact? o = none
  | .invalid => ∃ first, firstArtifact? o = some first ∧ (first.isObject = false ∨
      first.member "finishReason" = .null ∨ first.member "base64" = .null)
  | .failed => ∃ artifact, firstArtifact? o = some (.object artifact) ∧
      Object.value artifact "finishReason" ≠ .null ∧
      Object.value artifact "finishReason" ≠ .text "SUCCESS" ∧
      Object.value artifact "base64" ≠ .null
  | .success => ∃ artifact, firstArtifact? o = some (.object artifact) ∧
      Object.value artifact "finishReason" = .text "SUCCESS" ∧
      Object.value artifact "base64" ≠ .null

/-- That two artifacts are the same, or differ in nothing but the image that each of them gives. -/
inductive SameButImage : Value → Value → Prop where
  | same (v : Value) : SameButImage v v
  | image {artifact artifact' : Object}
      (hothers : ∀ key, key ≠ "base64" → Object.value artifact key = Object.value artifact' key)
      (himage : Object.value artifact "base64" ≠ .null)
      (himage' : Object.value artifact' "base64" ≠ .null) :
      SameButImage (.object artifact) (.object artifact')

theorem image_eq (o : Object) :
    image o = match firstArtifact? o with
      | some (.object artifact) => artifactResult artifact
      | some _ => ⟨.invalid, none, .null, .null⟩
      | none => ⟨.noData, none, .null, .null⟩ := by
  unfold image firstArtifact?
  cases Object.value o "artifacts" with
  | list items =>
    cases items with
    | nil => rfl
    | cons first others => cases first <;> rfl
  | _ => rfl

section
variable {artifact : Object}

theorem artifactResult_of_null (h : Object.value artifact "finishReason" = .null ∨
    Object.value artifact "base64" = .null) :
    artifactResult artifact = ⟨.invalid, none, Object.value artifact "finishReason",
      seedOf (Object.value artifact "seed")⟩ := by
  unfold artifactResult
  rcases h with h | h
  · rw [h]
  · rw [h]
    cases Object.value artifact "finishReason" <;> rfl

theorem artifactResult_of_success (h : Object.value artifact "finishReason" = .text "SUCCESS")
    (himage : Object.value artifact "base64" ≠ .null) :
    artifactResult artifact = ⟨.success, some (Object.value artifact "base64").display,
      .text "SUCCESS", seedOf (Object.value artifact "seed")⟩ := by
  unfold artifactResult
  rw [h]
  cases hbase : Object.value artifact "base64" with
  | null => exact absurd hbase himage
  | _ => rfl

theorem artifactResult_of_failure (hnull : Object.value artifact "finishReason" ≠ .null)
    (hfailed : Object.value artifact "finishReason" ≠ .text "SUCCESS")
    (himage : Object.value artifact "base64" ≠ .null) :
    artifactResult artifact = ⟨.failed, none,
      .text (Object.value artifact "finishReason").display,
      seedOf (Object.value artifact "seed")⟩ := by
  unfold artifactResult
  split
  · contradiction
  · contradiction
  · contradiction
  · rfl

end

/-- The result of a response that a status is true of has that status, and an image for success
alone. -/
theorem image_of_means {o : Object} {status : ImageStatus} (h : Means o status) :
    (image o).status = status ∧ ((image o).base64.isSome = true ↔ status = .success) := by
  rw [image_eq]
  cases status with
  | noData =>
    rw [show firstArtifact? o = none from h]
    exact ⟨rfl, nofun, nofun⟩
  | invalid =>
    obtain ⟨first, hfirst, hinvalid⟩ := h
    rw [hfirst]
    cases first with
    | object artifact =>
      dsimp only
      rw [artifactResult_of_null (hinvalid.resolve_left (by simp [Value.isObject]))]
      exact ⟨rfl, nofun, nofun⟩
    | _ => exact ⟨rfl, nofun, nofun⟩
  | failed =>
    obtain ⟨artifact, hfirst, hnull, hfailed, himage⟩ := h
    rw [hfirst]
    dsimp only
    rw [artifactResult_of_failure hnull hfailed himage]
    exact ⟨rfl, nofun, nofun⟩
  | success =>
    obtain ⟨artifact, hfirst, hsuccess, himage⟩ := h
    rw [hfirst]
    dsimp only
    rw [artifactResult_of_success hsuccess himage]
    exact ⟨rfl, fun _ => rfl, fun _ => rfl⟩

/-- Of every response some status is true. -/
theorem exists_means (o : Object) : ∃ status, Means o status := by
  cases hfirst : firstArtifact? o with
  | none => exact ⟨.noData, hfirst⟩
  | some first =>
    by_cases hinvalid : first.isObject = false ∨ first.member "finishReason" = .null ∨
        first.member "base64" = .null
    · exact ⟨.invalid, first, hfirst, hinvalid⟩
    · obtain ⟨hobject, hinvalid⟩ := not_or.mp hinvalid
      obtain ⟨hnull, himage⟩ := not_or.mp hinvalid
      cases first with
      | object artifact =>
        by_cases hsuccess : Object.value artifact "finishReason" = .text "SUCCESS"
        · exact ⟨.success, artifact, hfirst, hsuccess, himage⟩
        · exact ⟨.failed, artifact, hfirst, hnull, hsuccess, himage⟩
      | _ => exact absurd rfl hobject

theorem status_eq_iff (o : Object) (status : ImageStatus) :
    (image o).status = status ↔ Means o status := by
  constructor
  · rintro rfl
    obtain ⟨status, hmeans⟩ := exists_means o
    exact (image_of_means hmeans).1.symm ▸ hmeans
  · exact fun h => (image_of_means h).1

/-- Without success an artifact is judged by everything but its image. -/
theorem artifactResult_congr {artifact artifact' : Object}
    (hothers : ∀ key, key ≠ "base64" → Object.value artifact key = Object.value artifact' key)
    (himage : Object.value artifact "base64" ≠ .null)
    (himage' : Object.value artifact' "base64" ≠ .null)
    (hfailed : Object.value artifact "finishReason" ≠ .text "SUCCESS") :
    artifactResult artifact' = artifactResult artifact := by
  have hreason := hothers "finishReason" (by decide)
  have hseed := hothers "seed" (by decide)
  by_cases hnull : Object.value artifact "finishReason" = .null
  · rw [artifactResult_of_null (.inl hnull), artifactResult_of_null (.inl (hreason ▸ hnull)),
      hreason, hseed]
  · rw [artifactResult_of_failure hnull hfailed himage,
      artifactResult_of_failure (hreason ▸ hnull) (hreason ▸ hfailed) himage', hreason, hseed]

theorem image_congr {o o' : Object} {first first' : Value} (hfirst : firstArtifact? o = some first)
    (hfirst' : firstArtifact? o' = some first') (h : SameButImage first first')
    (hfailed : first.member "finishReason" ≠ .text "SUCCESS") : image o' = image o := by
  rw [image_eq, image_eq, hfirst, hfirst']
  cases h with
  | same v => rfl
  | image hothers himage himage' => exact artifactResult_congr hothers himage himage' hfailed

/-- A decoded response shows its image with success alone, and its status is the one that is true of
its object. Without success another response whose first artifact differs in nothing but the image it
gives has the same result, and so the same message, whatever stands beside that artifact. -/
theorem image_shown_on_success_only {body : Body} {strict : Bool} {r : ImageResult}
    (h : adapter.image body strict = .ok r) : ∃ o, body.object strict = .ok o ∧
      (r.base64.isSome = true ↔ r.status = .success) ∧
      (∀ status, r.status = status ↔ Means o status) ∧
      ∀ body' strict' o' first first', Body.object body' strict' = .ok o' →
        firstArtifact? o = some first → firstArtifact? o' = some first' →
        SameButImage first first' → first.member "finishReason" ≠ .text "SUCCESS" →
        ∃ r', adapter.image body' strict' = .ok r' ∧ r' = r ∧ r'.message = r.message := by
  obtain ⟨o, ho, hr⟩ := Body.of_decodeWith (f := fun o => .ok (image o)) h
  obtain rfl := Except.ok.inj hr
  refine ⟨o, ho, ?_, status_eq_iff o, ?_⟩
  · obtain ⟨status, hmeans⟩ := exists_means o
    obtain ⟨hstatus, himage⟩ := image_of_means hmeans
    rw [himage, hstatus]
  · intro body' strict' o' first first' ho' hfirst hfirst' hsame hfailed
    have himage := image_congr hfirst hfirst' hsame hfailed
    refine ⟨image o', ?_, himage, congrArg ImageResult.message himage⟩
    change Body.decodeWith (fun o => .ok (image o)) body' strict' = _
    rw [Body.decodeWith, ho']
    rfl

/-- A response with an image that was withheld, and artifacts after it. -/
def withheld (image : String) (later : List Value) : Object :=
  [("artifacts", .list (.object [("seed", .int 9), ("base64", .text image),
    ("finishReason", .text "ERROR")] :: later))]

theorem withheld_images_look_alike : ∃ r,
    adapter.image (.value (.object (withheld "aGVsbG8=" []))) false = .ok r ∧
    r.base64 = none ∧ r.status = .failed ∧ r.message = "Image generation failed: ERROR" ∧
    adapter.image (.value (.object (withheld "" [.null]))) true = .ok r := by
  have hdecoded : adapter.image (.value (.object (withheld "aGVsbG8=" []))) false =
    .ok ⟨.failed, none, .text "ERROR", .int 9⟩ := rfl
  obtain ⟨o, ho, _, _, hsame⟩ := image_shown_on_success_only hdecoded
  obtain rfl := Except.ok.inj ho
  have hbut : SameButImage (.object [("seed", .int 9), ("base64", .text "aGVsbG8="),
      ("finishReason", .text "ERROR")]) (.object [("seed", .int 9), ("base64", .text ""),
      ("finishReason", .text "ERROR")]) := by
    refine .image (fun key hkey => ?_) nofun nofun
    simp only [Object.value_cons, hkey, if_false]
  obtain ⟨r', hr', rfl, _⟩ := hsame (.value (.object (withheld "" [.null]))) true _ _ _ rfl rfl rfl
    hbut (by simp [Value.member, Object.value_cons])
  exact ⟨_, hdecoded, rfl, rfl, rfl, hr'⟩

end ModelGateway.StableDiffusion
