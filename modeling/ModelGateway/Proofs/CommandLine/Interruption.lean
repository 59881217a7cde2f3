import ModelGateway.Proofs.CommandLine.Preparation

/-!
# A text that is refused cuts a command short

Commands hand their texts to the standard output one after the other and never look at what became of
them, so a standard output that refuses a text only ends a command early. Beside one that takes
everything, the command shows what comes in front of that text, and has written the same file.
-/
namespace ModelGateway.CommandLine

/-- The same surroundings with a standard output that takes every text. -/
def Surroundings.takingAll (s : Surroundings) : Surroundings := { s with refusal? := fun _ _ => none }

def Surroundings.TakesAll (s : Surroundings) : Prop := ∀ shown text, s.refusal? shown text = none

theorem Surroundings.takesAll_takingAll (s : Surroundings) : s.takingAll.TakesAll := fun _ _ => rfl

/-- That one report is another one as it was when the standard output refused a text. -/
structure Report.CutFrom (s : Surroundings) (why : Foreign) (cut whole : Report) : Prop where
  stdout : ∃ text rest, s.refusal? cut.stdout text = some why ∧
    whole.stdout = cut.stdout ++ text ++ rest
  written : whole.written = cut.written

namespace Action

variable {α β : Type} {s : Surroundings}

theorem run_write_of_refused {text : String} {r : Report} {why : Foreign}
    (h : s.refusal? r.stdout text = some why) :
    (write s text).run r = (.error (.output why), r) := by
  unfold write ExceptT.run ExceptT.mk
  dsimp only
  rw [h]

theorem run_write_of_taken {text : String} {r : Report} (h : s.refusal? r.stdout text = none) :
    (write s text).run r = (.ok (), { r with stdout := r.stdout ++ text }) := by
  unfold write ExceptT.run ExceptT.mk
  dsimp only
  rw [h]

theorem run_print (hs : s.TakesAll) (line : String) (r : Report) :
    (print s line).run r = (.ok (), { r with stdout := r.stdout ++ (line ++ "\n") }) := by
  unfold print
  rw [run_bind_of_ok (run_write_of_taken (hs _ _)), run_write_of_taken (hs _ _),
    String.append_assoc]

/-! ## Actions that only add to what is shown -/

/-- That an action only adds to the standard output and leaves the file alone. -/
structure Adds (action : Action α) : Prop where
  stdout : ∀ r, ∃ more, (action.run r).2.stdout = r.stdout ++ more
  written : ∀ r, (action.run r).2.written = r.written

theorem adds_pure (a : α) : Adds (pure a : Action α) where
  stdout _ := ⟨"", String.append_empty.symm⟩
  written _ := rfl

theorem Adds.bind {first : Action α} {next : α → Action β} (h : Adds first)
    (hnext : ∀ a, Adds (next a)) : Adds (first >>= next) where
  stdout r := by
    obtain ⟨more, hmore⟩ := h.stdout r
    rw [run_bind]
    rcases hrun : first.run r with ⟨why | a, r'⟩
    · rw [hrun] at hmore
      exact ⟨more, hmore⟩
    · rw [hrun] at hmore
      obtain ⟨rest, hrest⟩ := (hnext a).stdout r'
      exact ⟨more ++ rest, by rw [← String.append_assoc, ← hmore]; exact hrest⟩
  written r := by
    have hfirst := h.written r
    rw [run_bind]
    rcases hrun : first.run r with ⟨why | a, r'⟩
    · rwa [hrun] at hfirst
    · rw [hrun] at hfirst
      exact ((hnext a).written r').trans hfirst

theorem adds_write (text : String) : Adds (write s text) where
  stdout r := by
    cases h : s.refusal? r.stdout text with
    | some why =>
      rw [run_write_of_refused h]
      exact ⟨"", String.append_empty.symm⟩
    | none =>
      rw [run_write_of_taken h]
      exact ⟨text, rfl⟩
  written r := by
    cases h : s.refusal? r.stdout text with
    | some why => rw [run_write_of_refused h]
    | none => rw [run_write_of_taken h]

theorem adds_print (line : String) : Adds (print s line) := (adds_write _).bind fun _ => adds_write _

theorem adds_forM {action : β → Action PUnit} (h : ∀ b, Adds (action b)) (items : List β) :
    Adds (items.forM action) := by
  induction items with
  | nil => exact adds_pure _
  | cons b rest ih => exact (h b).bind fun _ => ih

theorem adds_session (operation : Session α) : Adds (session s operation) where
  stdout _ := ⟨"", String.append_empty.symm⟩
  written _ := rfl

section Streams

variable {capability : Capability} {client : Client capability} {invoker : Invoker}

theorem adds_showNext (stream : Stream) {goOn : Stream → Action Unit} (h : ∀ rest, Adds (goOn rest)) :
    Adds (showNext s client invoker stream goOn) := by
  refine (adds_session _).bind fun found => ?_
  rcases found with _ | ⟨fragment, rest⟩
  · exact adds_pure _
  · exact (adds_write fragment).bind fun _ => h rest

theorem adds_showUpTo (n : Nat) (stream : Stream) : Adds (showUpTo s client invoker n stream) := by
  induction n generalizing stream with
  | zero => exact adds_pure _
  | succ n ih => exact adds_showNext stream ih

end Streams

/-! ## What a refused text leaves -/

/-- That an action does what another one does, or is cut short by a text that is refused while the
other one goes on. -/
def Follows (s : Surroundings) (action whole : Action α) : Prop :=
  ∀ r, (action.run r = whole.run r ∧ ∀ f, (action.run r).1 ≠ .error (.output f)) ∨
    ∃ why cut, action.run r = (.error (.output why), cut) ∧
      Report.CutFrom s why cut (whole.run r).2

theorem Unrefused.follows {action : Action α} (h : action.Unrefused) : Follows s action action :=
  fun r => .inl ⟨rfl, h r⟩

theorem follows_pure (a : α) : Follows s (pure a) (pure a) :=
  (silent_pure (s := s) a).unrefused.follows

/-- What comes before the texts is done alike. -/
theorem Unrefused.before {first : Action α} {next next' : α → Action β} (h : first.Unrefused)
    (hnext : ∀ a, Follows s (next a) (next' a)) :
    Follows s (first >>= next) (first >>= next') := by
  intro r
  have hfirst := h r
  rw [run_bind, run_bind]
  rcases hrun : first.run r with ⟨why | a, r'⟩
  · rw [hrun] at hfirst
    exact .inl ⟨rfl, fun f h => hfirst f (congrArg Except.error (Except.error.inj h))⟩
  · exact hnext a r'

theorem Silent.before {first : Action α} {next next' : α → Action β} (h : Silent s first)
    (hnext : ∀ a, Follows s (next a) (next' a)) :
    Follows s (first >>= next) (first >>= next') := h.unrefused.before hnext

/-- What comes after a text that is refused is missing, and would only add to what is shown. -/
theorem Follows.bind {first first' : Action α} {next next' : α → Action β}
    (h : Follows s first first') (hnext : ∀ a, Follows s (next a) (next' a))
    (hadds : ∀ a, Adds (next' a)) : Follows s (first >>= next) (first' >>= next') := by
  intro r
  rcases h r with ⟨hsame, hunrefused⟩ | ⟨why, cut, hcut, hfrom⟩
  · rw [hsame] at hunrefused
    rw [run_bind, run_bind, hsame]
    rcases hrun : first'.run r with ⟨why | a, r'⟩
    · rw [hrun] at hunrefused
      exact .inl ⟨rfl, fun f h => hunrefused f (congrArg Except.error (Except.error.inj h))⟩
    · exact hnext a r'
  · refine .inr ⟨why, cut, run_bind_of_error hcut, ?_⟩
    rw [run_bind]
    rcases hwhole : first'.run r with ⟨other | a, r'⟩
    · rw [hwhole] at hfrom
      exact hfrom
    · rw [hwhole] at hfrom
      obtain ⟨text, rest, hrefused, hstdout⟩ := hfrom.stdout
      obtain ⟨more, hmore⟩ := (hadds a).stdout r'
      refine ⟨⟨text, rest ++ more, hrefused, ?_⟩, ((hadds a).written r').trans hfrom.written⟩
      rw [← String.append_assoc, ← hstdout]
      exact hmore

theorem follows_write (text : String) : Follows s (write s text) (write s.takingAll text) := by
  intro r
  have hwhole : (write s.takingAll text).run r = _ := run_write_of_taken rfl
  rw [hwhole]
  cases h : s.refusal? r.stdout text with
  | none =>
    refine .inl ⟨run_write_of_taken h, ?_⟩
    rw [run_write_of_taken h]
    exact fun _ => nofun
  | some why =>
    exact .inr ⟨why, r, run_write_of_refused h, ⟨text, "", h, String.append_empty.symm⟩, rfl⟩

theorem follows_print (line : String) : Follows s (print s line) (print s.takingAll line) :=
  (follows_write line).bind (fun _ => follows_write _) fun _ => adds_write _

/-- A line is shown as a whole, or the printing is cut short. -/
theorem run_print_or_refused (s : Surroundings) (line : String) (r : Report) :
    (print s line).run r = (.ok (), { r with stdout := r.stdout ++ (line ++ "\n") }) ∨
      ∃ why cut, (print s line).run r = (.error (.output why), cut) := by
  rcases follows_print (s := s) line r with ⟨hsame, -⟩ | ⟨why, cut, hcut, -⟩
  · exact .inl (hsame.trans (run_print s.takesAll_takingAll line r))
  · exact .inr ⟨why, cut, hcut⟩

/-- What is printed stands after what was shown before. -/
theorem report_of_print {line : String} {r r' : Report} (h : (print s line).run r = (.ok (), r')) :
    r' = { r with stdout := r.stdout ++ (line ++ "\n") } := by
  rcases run_print_or_refused s line r with hprinted | ⟨_, _, hrefused⟩
  · rw [hprinted] at h
    exact (Prod.mk.inj h).2.symm
  · rw [hrefused] at h
    cases h

theorem follows_forM {action action' : β → Action PUnit} (h : ∀ b, Follows s (action b) (action' b))
    (hadds : ∀ b, Adds (action' b)) (items : List β) :
    Follows s (items.forM action) (items.forM action') := by
  induction items with
  | nil => exact follows_pure _
  | cons b rest ih => exact (h b).bind (fun _ => ih) fun _ => adds_forM hadds rest

section Streams

variable {capability : Capability} {client : Client capability} {invoker : Invoker}

theorem follows_showNext (stream : Stream) {goOn goOn' : Stream → Action Unit}
    (h : ∀ rest, Follows s (goOn rest) (goOn' rest)) (hadds : ∀ rest, Adds (goOn' rest)) :
    Follows s (showNext s client invoker stream goOn)
      (showNext s.takingAll client invoker stream goOn') := by
  refine Silent.before (silent_session _) fun found => ?_
  rcases found with _ | ⟨fragment, rest⟩
  · exact follows_pure _
  · exact (follows_write fragment).bind (fun _ => h rest) fun _ => hadds rest

theorem follows_showUpTo (n : Nat) (stream : Stream) :
    Follows s (showUpTo s client invoker n stream) (showUpTo s.takingAll client invoker n stream) := by
  induction n generalizing stream with
  | zero => exact follows_pure _
  | succ n ih => exact follows_showNext stream ih fun rest => adds_showUpTo n rest

theorem follows_printStream (stream : OpenStream) :
    Follows s (printStream s client invoker stream) (printStream s.takingAll client invoker stream) :=
  (follows_showNext _ (fun _ => follows_showUpTo _ _) fun _ => adds_showUpTo _ _).bind
    (fun _ => follows_write _) fun _ => adds_write _

end Streams

theorem unrefused_writeFile (path : String) (octets : List UInt8) :
    (writeFile s path octets).Unrefused := by
  unfold writeFile
  split
  · exact Silent.unrefused (s := s) (silent_throw fun _ => nofun)
  · exact unrefused_of_ok fun _ => ⟨_, rfl⟩

/-- The file of an image is written before anything is shown. -/
theorem follows_showImage (result : ImageResult) (output : Option String) :
    Follows s (showImage s result output) (showImage s.takingAll result output) := by
  unfold showImage
  split
  · refine Silent.before (silent_ofOutcome .image (fun _ _ => nofun) _) fun octets => ?_
    exact (unrefused_writeFile _ octets).before fun _ => follows_print _
  · exact follows_print _

theorem follows_error (line : String) (code : Nat) :
    Follows s (do
      printError line
      return code) (do
      printError line
      return code) :=
  (unrefused_of_ok fun _ => ⟨_, rfl⟩).follows

/-- A command that ends when its texts have been shown. -/
theorem Follows.done {action action' : Action PUnit} (h : Follows s action action') :
    Follows s (do
      action
      return 0 : Action Nat) (do
      action'
      return 0) :=
  h.bind (fun _ => follows_pure _) fun _ => adds_pure _

/-- Lines that are printed as the last thing of a command. -/
theorem follows_lines (line : β → String) (items : List β) :
    Follows s (do
      items.forM fun b => print s (line b)
      return 0 : Action Nat)
      (do
      items.forM fun b => print s.takingAll (line b)
      return 0) :=
  (follows_forM (fun _ => follows_print _) (fun _ => adds_print _) items).done

end Action

namespace Arguments

open Action

variable (s : Surroundings) (line : Arguments)

/-- A command does what it would do with a standard output that takes every text, or is cut short. -/
theorem follows : Follows s (line.action s) (line.action s.takingAll) := by
  obtain ⟨named, command⟩ := line
  cases command with
  | models => exact follows_lines _ _
  | encode modelId kind input width height settings =>
    refine Silent.before (silent_ofGateway _) fun route =>
      Silent.before (silent_settings settings) fun settings =>
        Silent.before (silent_ofFault _) fun request => ?_
    split
    · exact (follows_print _).done
    · exact Unrefused.follows (Silent.unrefused (s := s) (silent_throw fun _ => nofun))
  | generate modelId prompt settings stream =>
    refine Silent.before (silent_config named) fun c => Silent.before (silent_model _ _ _)
      fun modelId => Silent.before (silent_connect c) fun invoker =>
        Silent.before (silent_ofGateway _) fun client =>
          Silent.before (silent_settings settings) fun settings => ?_
    cases stream with
    | true => exact Silent.before (silent_ofFault _) fun stream => (follows_printStream stream).done
    | false =>
      exact Silent.before (silent_session _) fun completions => follows_lines _ completions
  | chat modelId system messages settings stream =>
    refine Silent.before (silent_config named) fun c => Silent.before (silent_model _ _ _)
      fun modelId => Silent.before (silent_connect c) fun invoker =>
        Silent.before (silent_ofGateway _) fun client =>
          Silent.before (silent_settings settings) fun settings => ?_
    cases stream with
    | true => exact Silent.before (silent_ofFault _) fun stream => (follows_printStream stream).done
    | false => exact Silent.before (silent_session _) fun replies => follows_lines _ replies
  | embed modelId texts =>
    exact Silent.before (silent_config named) fun c => Silent.before (silent_model _ _ _)
      fun modelId => Silent.before (silent_connect c) fun invoker =>
        Silent.before (silent_ofGateway _) fun client =>
          Silent.before (silent_session _) fun vectors => follows_lines _ vectors
  | image modelId description width height settings output =>
    refine Silent.before (silent_config named) fun c => Silent.before (silent_model _ _ _)
      fun modelId => Silent.before (silent_connect c) fun invoker =>
        Silent.before (silent_ofGateway _) fun client =>
          Silent.before (silent_settings settings) fun settings =>
            Silent.before (silent_session _) fun result => ?_
    split
    · exact (follows_showImage result output).done
    · exact follows_error _ 1

end Arguments
end ModelGateway.CommandLine
