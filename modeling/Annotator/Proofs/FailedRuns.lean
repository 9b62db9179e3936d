import Annotator.CommandLine.Run
import Annotator.Proofs.Results

/-!
# Runs that fail

A run first reads, which leaves no trace and may fail, and then writes, which cannot fail. So a run that
fails has written nothing, whatever its task is and wherever it fails. A part of a run is described in
one of two ways: it `Comes` to a result without a trace, or it `Writes`.

## Key results

- `Comes.bind`, `Comes.bind_error`, `Writes.bind`: parts of a run one after another
- `Fails`: what can go wrong with an invocation in a world, stage by stage
- `Fails.comes`: where something goes wrong, the run stops there without a trace
- `writes_perform`: where nothing goes wrong, the run writes
- `run_eq_one_iff`: the runs that end with code 1
-/

namespace Annotator.CommandLine

/-! ### Parts of a run -/

/-- A part of a run on a recorded host. -/
abbrev Part (α : Type) := ExceptT Error (StateM Transcript) α

section Parts

variable {α β : Type}

/-- A part that comes to a result, which may be an error, and leaves no trace. -/
def Comes (x : Part α) (r : Except Error α) : Prop := ∀ t, x.run.run t = (r, t)

/-- A part that does not fail, whatever it writes. -/
def Writes (x : Part Unit) : Prop := ∀ t, ∃ t', x.run.run t = (.ok (), t')

theorem run_bind (x : Part α) (f : α → Part β) (t : Transcript) :
    (x >>= f).run.run t =
      match x.run.run t with
      | (.ok a, t') => (f a).run.run t'
      | (.error e, t') => (.error e, t') := by
  rw [ExceptT.run_bind, StateT.run_bind]
  rcases x.run.run t with ⟨_ | _, _⟩ <;> rfl

theorem Comes.bind {x : Part α} {a : α} (hx : Comes x (.ok a)) {f : α → Part β} {r : Except Error β}
    (hf : Comes (f a) r) : Comes (x >>= f) r := by
  intro t
  rw [run_bind, hx t]
  exact hf t

theorem Comes.bind_error {x : Part α} {e : Error} (hx : Comes x (.error e)) (f : α → Part β) :
    Comes (x >>= f) (.error e) := by
  intro t
  rw [run_bind, hx t]

/-- What follows a part that leaves no trace is all that is written. -/
theorem Comes.bind_writes {x : Part α} {a : α} (hx : Comes x (.ok a)) {f : α → Part Unit}
    (hf : Writes (f a)) : Writes (x >>= f) := by
  intro t
  rw [run_bind, hx t]
  exact hf t

theorem Writes.bind {x : Part Unit} (hx : Writes x) {f : Unit → Part Unit} (hf : Writes (f ())) :
    Writes (x >>= f) := by
  intro t
  obtain ⟨t', ht⟩ := hx t
  rw [run_bind, ht]
  exact hf t'

theorem run_lift (x : StateM Transcript α) (t : Transcript) :
    (liftM x : Part α).run.run t = (.ok (x.run t).1, (x.run t).2) := rfl

/-- A part that only looks at the world. -/
theorem comes_lift {x : StateM Transcript α} {a : α} (h : ∀ t, x.run t = (a, t)) :
    Comes (liftM x) (.ok a) := by
  intro t
  rw [run_lift, h t]

theorem comes_ofExcept {r r' : Except Error α} (h : r = r') :
    Comes (MonadExcept.ofExcept r) r' := by
  subst h
  cases r <;> exact fun _ => rfl

theorem writes_write (w : World) (text : String) : Writes (liftM (w.host.write text)) := by
  intro t
  rw [run_lift, w.run_write]
  exact ⟨_, rfl⟩

theorem writes_forM {l : List α} {f : α → Part Unit} (h : ∀ a ∈ l, Writes (f a)) :
    Writes (l.forM f) := by
  induction l with
  | nil => exact fun t => ⟨t, rfl⟩
  | cons a l ih =>
    have hstep : (a :: l).forM f = f a >>= fun _ => l.forM f := rfl
    rw [hstep]
    exact (h a List.mem_cons_self).bind (ih fun b hb => h b (List.mem_cons_of_mem a hb))

end Parts

/-! ### What a run reads -/

/-- Whether a task works on a text. -/
def Task.readsText : Task → Bool
  | highlight | prettify | extract => true
  | css | groups | validate => false

namespace World

variable (w : World)

/-- The settings in a world. They are the default ones if there is no file that can be read. -/
def settings : Settings :=
  match (Settings.path? w.environment).bind w.file? with
  | none => .default
  | some contents => .ofContents contents.toList

/-- The path of the grammar: the one that is asked for, or the one of the settings. -/
def grammarPath? (i : Invocation) : Option String := i.given.grammar.or w.settings.grammar

/-- The text that a run works on; `none` if it cannot be read. -/
def text? (i : Invocation) : Option String :=
  match i.given.input with
  | some path => w.file? path
  | none => w.input?

/-- The line length: the one that is asked for, or the one of the settings. -/
def lineLength (i : Invocation) : Nat := i.given.maxLineLength.getD w.settings.maxLineLength

/-- A run gets as far as having a grammar. -/
def HasGrammar (i : Invocation) (g : Grammar) : Prop :=
  ∃ path contents, w.grammarPath? i = some path ∧ w.file? path = some contents ∧
    (if isToml path then Grammar.ofTomlText contents else Grammar.ofJsonText contents) = .ok g

end World

section Reading

variable (w : World)

theorem run_load (t : Transcript) : (Settings.load w.host).run t = (w.settings, t) := by
  have henvironment : w.host.environment = w.environment := rfl
  unfold Settings.load World.settings
  rw [henvironment]
  cases Settings.path? w.environment with
  | none => rfl
  | some path =>
    rw [Option.bind_some, StateT.run_bind, World.run_readFile]
    cases w.file? path with
    | none => rfl
    | some contents => rfl

theorem comes_load : Comes (ExceptT.lift (Settings.load w.host)) (.ok w.settings) :=
  comes_lift (run_load w)

/-- A file gives its text, or the run cannot go on. -/
theorem comes_readFile (path : String) :
    Comes (readFile w.host path) ((w.file? path).elim (.error .io) .ok) := by
  refine (comes_lift (w.run_readFile path)).bind ?_
  cases w.file? path with
  | none => exact fun _ => rfl
  | some text => exact fun _ => rfl

theorem comes_readText (i : Invocation) :
    Comes (readText w.host i.given.input) ((w.text? i).elim (.error .io) .ok) := by
  unfold readText World.text?
  cases i.given.input with
  | some path => exact comes_readFile w path
  | none =>
    refine (comes_lift w.run_readInput).bind ?_
    cases w.input? with
    | none => exact fun _ => rfl
    | some text => exact fun _ => rfl

theorem comes_readGrammar (path : String) :
    Comes (readGrammar w.host path) ((w.file? path).elim (.error .io) fun contents =>
      if isToml path then Grammar.ofTomlText contents else Grammar.ofJsonText contents) := by
  have hfile := comes_readFile w path
  unfold readGrammar
  cases h : w.file? path with
  | none =>
    rw [h] at hfile
    exact hfile.bind_error _
  | some contents =>
    rw [h] at hfile
    exact hfile.bind (comes_ofExcept rfl)

end Reading

/-! ### What can go wrong -/

/-- What can go wrong with an invocation in a world. A later stage is reached only when the earlier ones
went well: the grammar is found, then read; the text is read; then the rules or the operators are made
ready. -/
inductive Fails (w : World) (i : Invocation) : Error → Prop where
  | noGrammar (h : w.grammarPath? i = none) : Fails w i (.malformed .noGrammar)
  | grammarUnreadable {path : String} (hpath : w.grammarPath? i = some path)
    (h : w.file? path = none) : Fails w i .io
  /-- The grammar file is no document, or the document describes no grammar. -/
  | grammarRefused {path contents : String} {e : Error} (hpath : w.grammarPath? i = some path)
    (hfile : w.file? path = some contents)
    (h : (if isToml path then Grammar.ofTomlText contents else Grammar.ofJsonText contents) =
      .error e) : Fails w i e
  | textUnreadable {g : Grammar} (hg : w.HasGrammar i g) (htask : i.task.readsText = true)
    (h : w.text? i = none) : Fails w i .io
  | ruleRefused {g : Grammar} {text : String} {e : Error} (hg : w.HasGrammar i g)
    (htask : i.task = .highlight) (htext : w.text? i = some text)
    (h : Highlighter.ofVocabulary (.ofGrammar g) = .error e) : Fails w i e
  | operatorRefused {g : Grammar} {text : String} {e : Error} (hg : w.HasGrammar i g)
    (htask : i.task = .prettify) (htext : w.text? i = some text)
    (h : Spacing.ofVocabulary (.ofGrammar g) (w.lineLength i) = .error e) : Fails w i e

section Invocations

variable {w : World} {i : Invocation}

theorem World.HasGrammar.comes {g : Grammar} (hg : w.HasGrammar i g) :
    ∃ path, i.given.grammar.or w.settings.grammar = some path ∧
      Comes (readGrammar w.host path) (.ok g) := by
  obtain ⟨path, contents, hpath, hfile, hok⟩ := hg
  have hread := comes_readGrammar w path
  rw [hfile, Option.elim_some, hok] at hread
  exact ⟨path, hpath, hread⟩

theorem comes_readText_of_some {text : String} (h : w.text? i = some text) :
    Comes (readText w.host i.given.input) (.ok text) := by
  have hread := comes_readText w i
  rwa [h] at hread

/-- Where something goes wrong a run stops, without a trace. -/
theorem Fails.comes {e : Error} (h : Fails w i e) : Comes (perform w.host i) (.error e) := by
  refine (comes_load w).bind ?_
  -- a run goes through the stages in the order in which `Fails` has them
  cases h with
  | noGrammar h =>
    have hpath : i.given.grammar.or w.settings.grammar = none := h
    rw [hpath]
    exact fun _ => rfl
  | @grammarUnreadable path hpath h =>
    have hpath : i.given.grammar.or w.settings.grammar = some path := hpath
    have hread := comes_readGrammar w path
    rw [h] at hread
    rw [hpath]
    exact hread.bind_error _
  | @grammarRefused path _ _ hpath hfile h =>
    have hpath : i.given.grammar.or w.settings.grammar = some path := hpath
    have hread := comes_readGrammar w path
    rw [hfile, Option.elim_some, h] at hread
    rw [hpath]
    exact hread.bind_error _
  | textUnreadable hg htask h =>
    -- from here on there is a grammar, and what is left depends on the task
    obtain ⟨path, hpath, hread⟩ := hg.comes
    have htext := comes_readText w i
    rw [h] at htext
    rw [hpath]
    refine hread.bind ?_
    cases hkind : i.task with
    | highlight => exact htext.bind_error _
    | prettify => exact htext.bind_error _
    | extract => exact htext.bind_error _
    | css => rw [hkind] at htask; cases htask
    | groups => rw [hkind] at htask; cases htask
    | validate => rw [hkind] at htask; cases htask
  | ruleRefused hg htask htext h =>
    obtain ⟨path, hpath, hread⟩ := hg.comes
    rw [hpath]
    refine hread.bind ?_
    rw [htask]
    exact (comes_readText_of_some htext).bind ((comes_ofExcept h).bind_error _)
  | operatorRefused hg htask htext h =>
    obtain ⟨path, hpath, hread⟩ := hg.comes
    rw [hpath]
    refine hread.bind ?_
    rw [htask]
    exact (comes_readText_of_some htext).bind ((comes_ofExcept h).bind_error _)

/-- Where nothing goes wrong a run has a grammar. -/
theorem exists_hasGrammar (h : ∀ e, ¬ Fails w i e) : ∃ g, w.HasGrammar i g := by
  rcases hpath : w.grammarPath? i with _ | path
  · exact absurd (.noGrammar hpath) (h _)
  rcases hfile : w.file? path with _ | contents
  · exact absurd (.grammarUnreadable hpath hfile) (h _)
  rcases hg : (if isToml path then Grammar.ofTomlText contents else Grammar.ofJsonText contents)
    with e | g
  · exact absurd (.grammarRefused hpath hfile hg) (h e)
  · exact ⟨g, path, contents, hpath, hfile, hg⟩

/-- Where nothing goes wrong a task that works on a text has one. -/
theorem exists_text {g : Grammar} (hg : w.HasGrammar i g) (h : ∀ e, ¬ Fails w i e)
    (htask : i.task.readsText = true) : ∃ text, w.text? i = some text := by
  rcases htext : w.text? i with _ | text
  · exact absurd (.textUnreadable hg htask htext) (h _)
  · exact ⟨text, rfl⟩

/-- Where nothing goes wrong a run writes. -/
theorem writes_perform (h : ∀ e, ¬ Fails w i e) : Writes (perform w.host i) := by
  obtain ⟨g, hg⟩ := exists_hasGrammar h
  obtain ⟨path, hpath, hread⟩ := hg.comes
  refine (comes_load w).bind_writes ?_
  rw [hpath]
  refine hread.bind_writes ?_
  cases htask : i.task with
  | highlight =>
    obtain ⟨text, htext⟩ := exists_text hg h (by rw [htask]; rfl)
    rcases hrules : Highlighter.ofVocabulary (.ofGrammar g) with e | highlighter
    · exact absurd (.ruleRefused hg htask htext hrules) (h e)
    refine (comes_readText_of_some htext).bind_writes ((comes_ofExcept hrules).bind_writes ?_)
    -- the stylesheet, if it is wanted, stands in front
    split
    · exact (writes_write w _).bind (writes_write w _)
    · exact writes_write w _
  | prettify =>
    obtain ⟨text, htext⟩ := exists_text hg h (by rw [htask]; rfl)
    rcases hoperators : Spacing.ofVocabulary (.ofGrammar g) (w.lineLength i) with e | spacing
    · exact absurd (.operatorRefused hg htask htext hoperators) (h e)
    exact (comes_readText_of_some htext).bind_writes
      ((comes_ofExcept hoperators).bind_writes (writes_write w _))
  | extract =>
    obtain ⟨text, htext⟩ := exists_text hg h (by rw [htask]; rfl)
    exact (comes_readText_of_some htext).bind_writes (writes_forM fun _ _ => writes_write w _)
  | css => exact writes_write w _
  | groups => exact writes_write w _
  | validate => exact writes_write w _

/-- What a run reports at its end, and the code that it ends with. -/
theorem run_of_ok {arguments : List String} (hi : Invocation.ofArguments arguments = .ok i)
    (t : Transcript) : (run w.host arguments).run t =
      match (perform w.host i).run.run t with
      | (.ok (), t') => (0, t')
      | (.error e, t') =>
        (1, { t' with
          reported := t'.reported ++ ["Error: " ++ e.withCause (w.cause e) ++ "\n"] }) := by
  unfold run
  rw [hi]
  simp only []
  rw [StateT.run_bind]
  rcases (perform w.host i).run.run t with ⟨_ | _, _⟩ <;> rfl

end Invocations

/-- A run ends with code 1 exactly if something goes wrong that `Fails` lists, and then it has reported
that, with what is said about the cause, and written nothing. -/
theorem run_eq_one_iff (w : World) (arguments : List String) (t t' : Transcript) :
    (run w.host arguments).run t = (1, t') ↔
      ∃ i e, Invocation.ofArguments arguments = .ok i ∧ Fails w i e ∧
        t'.written = t.written ∧
        t'.reported = t.reported ++ ["Error: " ++ e.withCause (w.cause e) ++ "\n"] := by
  constructor
  · intro hrun
    rcases hi : Invocation.ofArguments arguments with stop | i
    · -- arguments that ask for no run end it with code 0 or 2
      unfold run at hrun
      rw [hi] at hrun
      cases stop <;> cases congrArg Prod.fst hrun
    · rw [run_of_ok hi] at hrun
      by_cases hfails : ∃ e, Fails w i e
      · obtain ⟨e, he⟩ := hfails
        rw [he.comes t] at hrun
        cases hrun
        exact ⟨i, e, rfl, he, rfl, rfl⟩
      · -- a run in which nothing goes wrong ends with code 0
        obtain ⟨s, hs⟩ := writes_perform (fun e he => hfails ⟨e, he⟩) t
        rw [hs] at hrun
        cases congrArg Prod.fst hrun
  · rintro ⟨i, e, hi, he, hwritten, hreported⟩
    rw [run_of_ok hi, he.comes t]
    cases t'
    cases hwritten
    cases hreported
    rfl

end Annotator.CommandLine
