import AddOnLoan.CommandLine.Commands
import AddOnLoan.Proofs.Text.Points

namespace AddOnLoan

variable {faults : Faults} {fault : Fault} {r left : Remains} {effects : List Effect} {path : Text}
  {what : String} {parts : List String}

namespace Remains

def afterAll (r : Remains) (effects : List Effect) : Remains := effects.foldl after r

/-- What is left behind where the first effect to fail ends a run. -/
inductive Breaks (faults : Faults) : Remains → List Effect → Fault → Remains → Prop
  | here {r : Remains} {effect : Effect} {rest : List Effect} {fault : Fault} {kept : Nat}
    (h : faults r effect = some (fault, kept)) :
    Breaks faults r (effect :: rest) fault (r.broken kept effect)
  | later {r left : Remains} {effect : Effect} {rest : List Effect} {fault : Fault}
    (h : faults r effect = none) (hrest : Breaks faults (r.after effect) rest fault left) :
    Breaks faults r (effect :: rest) fault left

theorem Breaks.exists_fault (h : Breaks faults r effects fault left) :
    ∃ before, ∃ effect ∈ effects, ∃ kept, faults before effect = some (fault, kept) := by
  induction h with
  | here h => exact ⟨_, _, .head _, _, h⟩
  | later _ _ ih =>
    obtain ⟨before, effect, hmem, kept, h⟩ := ih
    exact ⟨before, effect, .tail _ hmem, kept, h⟩

theorem Breaks.of_last {effect : Effect} {kept : Nat}
    (hdone : ∀ before, ∀ effect ∈ effects, faults before effect = none)
    (h : faults (r.afterAll effects) effect = some (fault, kept)) :
    Breaks faults r (effects ++ [effect]) fault ((r.afterAll effects).broken kept effect) := by
  induction effects generalizing r with
  | nil => exact .here h
  | cons first rest ih =>
    exact .later (hdone r first List.mem_cons_self)
      (ih (fun before effect hmem => hdone before effect (.tail _ hmem)) h)

theorem afterAll_append (more : List Effect) :
    r.afterAll (effects ++ more) = (r.afterAll effects).afterAll more :=
  List.foldl_append

theorem stdout_after (r : Remains) (effect : Effect) :
    r.stdout.points <+: (r.after effect).stdout.points := by
  cases effect with
  | openFile path => exact List.prefix_rfl
  | write path text => exact List.prefix_rfl
  | say text => exact ⟨text.points, (Text.points_append r.stdout text).symm⟩

theorem stdout_broken (r : Remains) (kept : Nat) (effect : Effect) :
    (r.broken kept effect).stdout.points <+: (r.after effect).stdout.points := by
  cases effect with
  | openFile path => exact List.prefix_rfl
  | write path text => exact List.prefix_rfl
  | say text =>
    simp only [broken, after, Text.points_append, Text.points_ofPoints]
    exact List.prefix_append_right_inj _ |>.2 (List.take_prefix kept text.points)

theorem stdout_afterAll (r : Remains) (effects : List Effect) :
    r.stdout.points <+: (r.afterAll effects).stdout.points := by
  induction effects generalizing r with
  | nil => exact List.prefix_rfl
  | cons effect rest ih => exact (r.stdout_after effect).trans (ih (r.after effect))

/-- What was said when a run broke off is a beginning of all that it would say. -/
theorem Breaks.stdout_prefix (h : Breaks faults r effects fault left) :
    left.stdout.points <+: (r.afterAll effects).stdout.points := by
  induction h with
  | here => exact (stdout_broken _ _ _).trans (stdout_afterAll _ _)
  | later _ _ ih => exact ih

theorem Breaks.files_of_spoken (h : Breaks faults r effects fault left)
    (hspoken : ∀ effect ∈ effects, ∃ text, effect = .say text) : left.files = r.files := by
  induction h with
  | here =>
    obtain ⟨text, rfl⟩ := hspoken _ (.head _)
    rfl
  | later _ _ ih =>
    obtain ⟨text, rfl⟩ := hspoken _ (.head _)
    exact ih fun effect hmem => hspoken effect (.tail _ hmem)

theorem after_write (before text : String) (hfiles : r.files = [(path, before)]) :
    r.after (.write path text) = { r with files := [(path, before ++ text)] } := by
  simp [after, hfiles]

theorem afterAll_writes {before : String} (hfiles : r.files = [(path, before)]) :
    r.afterAll (parts.map (.write path)) =
      { r with files := [(path, before ++ String.join parts)] } := by
  induction parts generalizing r before with
  | nil => simp [afterAll, hfiles.symm]
  | cons part parts ih =>
    change (r.after (.write path part)).afterAll (parts.map (.write path)) = _
    rw [after_write _ _ hfiles, ih rfl, String.join_cons, String.append_assoc]

/-- Writing breaks off with a beginning of what is to be written, or after all of it. -/
theorem Breaks.of_writes {before : String} {rest : List Effect}
    (h : Breaks faults r (parts.map (.write path) ++ rest) fault left)
    (hfiles : r.files = [(path, before)]) :
    (∃ text : String, text.toList <+: (String.join parts).toList ∧
      left = { r with files := [(path, before ++ text)] }) ∨
    Breaks faults { r with files := [(path, before ++ String.join parts)] } rest fault left := by
  induction parts generalizing r before with
  | nil =>
    right
    simpa [← hfiles] using h
  | cons part parts ih =>
    cases h with
    | here h =>
      refine .inl ⟨.ofList (part.toList.take _), ?_, after_write _ _ hfiles⟩
      rw [String.join_cons, String.toList_append, String.toList_ofList]
      exact (List.take_prefix _ _).trans (List.prefix_append _ _)
    | later _ hrest =>
      rw [after_write _ _ hfiles] at hrest
      rcases ih hrest rfl with ⟨text, hprefix, rfl⟩ | hrest
      · refine .inl ⟨part ++ text, ?_, by rw [String.append_assoc]⟩
        rw [String.join_cons, String.toList_append, String.toList_append]
        exact (List.prefix_append_right_inj _).2 hprefix
      · refine .inr ?_
        rwa [String.join_cons, ← String.append_assoc]

/-- Nothing is left behind by a file that cannot be opened. After that the file holds a beginning of
its text, and it is whole before anything is said of it. -/
theorem Breaks.of_exported (h : Breaks faults r (Command.exported what path parts) fault left)
    (hfiles : r.files = []) (hstdout : r.stdout = "") :
    left = r ∨
    (∃ text : String, text.toList <+: (String.join parts).toList ∧
      left = { r with files := [(path, text)] }) ∨
    ∃ said : Text, said.points <+: (Command.confirmation what path).points ∧
      left = { r with files := [(path, String.join parts)], stdout := said } := by
  cases h with
  | here => exact .inl rfl
  | later _ hrest =>
    have hopened : r.after (.openFile path) = { r with files := [(path, "")] } := by
      simp [after, hfiles]
    rw [hopened] at hrest
    rcases hrest.of_writes rfl with ⟨text, hprefix, rfl⟩ | hsay
    · exact .inr (.inl ⟨text, hprefix, by rw [String.empty_append]⟩)
    · right; right
      rw [String.empty_append] at hsay
      cases hsay with
      | @here _ _ _ _ kept =>
        refine ⟨.ofPoints ((Command.confirmation what path).points.take kept), ?_, ?_⟩
        · rw [Text.points_ofPoints]
          exact List.take_prefix _ _
        · simp only [broken, after, hstdout, Text.empty_append]
      | later _ hrest => cases hrest

theorem afterAll_written (hfiles : r.files = []) :
    r.afterAll (.openFile path :: parts.map (.write path)) =
      { r with files := [(path, String.join parts)] } := by
  have hopened : r.after (.openFile path) = { r with files := [(path, "")] } := by
    simp [after, hfiles]
  change (r.after (.openFile path)).afterAll (parts.map (.write path)) = _
  rw [hopened, afterAll_writes rfl, String.empty_append]

theorem afterAll_exported (hfiles : r.files = []) (hstdout : r.stdout = "") :
    r.afterAll (Command.exported what path parts) =
      { r with files := [(path, String.join parts)], stdout := Command.confirmation what path } := by
  rw [Command.exported, afterAll_append, afterAll_written hfiles]
  simp only [afterAll, List.foldl_cons, List.foldl_nil, after, hstdout, Text.empty_append]

theorem afterAll_printed (lines : List Text) :
    r.afterAll (Command.printed lines) = { r with stdout := r.stdout ++ .ofLines lines } := by
  induction lines generalizing r with
  | nil =>
    have hnone : r.stdout ++ Text.ofLines [] = r.stdout := by
      rw [← Text.points_inj, Text.points_append]
      exact List.append_nil _
    rw [hnone]
    rfl
  | cons line lines ih =>
    change ((r.after (.say line)).after (.say "\n")).afterAll (Command.printed lines) = _
    rw [ih]
    simp only [after, Remains.mk.injEq, and_true, ← Text.points_inj, Text.points_append,
      Text.points_ofLines, List.flatMap_cons, List.append_assoc]
    rfl

end Remains

theorem Command.printed_spoken (lines : List Text) :
    ∀ effect ∈ Command.printed lines, ∃ text, effect = .say text := by
  intro effect hmem
  obtain ⟨line, -, hline⟩ := List.mem_flatMap.1 hmem
  rcases List.mem_cons.1 hline with rfl | hend
  · exact ⟨line, rfl⟩
  · exact ⟨"\n", List.mem_singleton.1 hend⟩

namespace Action

section

variable {x : Action α} {next : α → Action β} {a : α} {stop : Stop}

theorem bind_of_ok (h : x r = (.ok a, left)) : (x >>= next) r = next a left := by
  change Action.bind x next r = _
  rw [Action.bind, h]

theorem bind_of_error (h : x r = (.error stop, left)) : (x >>= next) r = (.error stop, left) := by
  change Action.bind x next r = _
  rw [Action.bind, h]

theorem lift_ok_bind (a : α) (next : α → Action β) (r : Remains) :
    ((liftM (.ok a : Except CommandError α) : Action α) >>= next) r = next a r :=
  bind_of_ok rfl

theorem lift_error_bind (e : CommandError) (next : α → Action β) (r : Remains) :
    ((liftM (.error e : Except CommandError α) : Action α) >>= next) r =
      (.error (.reported e), r) :=
  bind_of_error rfl

theorem log_bind (lines : List Text) (next : Unit → Action β) (r : Remains) :
    (log lines >>= next) r = next () { r with stderr := r.stderr ++ .ofLines lines } :=
  bind_of_ok rfl

end

theorem performAll_of_done (h : ∀ before, ∀ effect ∈ effects, faults before effect = none) :
    performAll faults effects r = (.ok (), r.afterAll effects) := by
  induction effects generalizing r with
  | nil => rfl
  | cons effect rest ih =>
    have hdone : perform faults effect r = (.ok (), r.after effect) := by
      rw [perform, h r effect List.mem_cons_self]
    rw [performAll, bind_of_ok hdone, ih fun before effect hmem => h before effect (.tail _ hmem)]
    rfl

theorem performAll_of_breaks (h : Remains.Breaks faults r effects fault left) :
    performAll faults effects r = (.error (.fault fault), left) := by
  induction h with
  | here h =>
    refine bind_of_error ?_
    rw [perform, h]
  | @later r _ effect _ _ h _ ih =>
    have hdone : perform faults effect r = (.ok (), r.after effect) := by rw [perform, h]
    rw [performAll, bind_of_ok hdone, ih]

/-- All of the effects are done, or the first that fails ends the run. -/
theorem performAll_cases (faults : Faults) (effects : List Effect) (r : Remains) :
    performAll faults effects r = (.ok (), r.afterAll effects) ∨
      ∃ fault left, Remains.Breaks faults r effects fault left := by
  induction effects generalizing r with
  | nil => exact .inl rfl
  | cons effect rest ih =>
    cases hfault : faults r effect with
    | none =>
      have hdone : perform faults effect r = (.ok (), r.after effect) := by rw [perform, hfault]
      rw [performAll, bind_of_ok hdone]
      exact (ih (r.after effect)).imp_right fun ⟨fault, left, h⟩ => ⟨fault, left, .later hfault h⟩
    | some found => exact .inr ⟨found.1, _, .here hfault⟩

end Action
end AddOnLoan
