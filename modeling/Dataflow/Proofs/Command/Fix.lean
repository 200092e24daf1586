import Dataflow.Command.Run
import Dataflow.Proofs.Files
import Dataflow.Proofs.Graph.Sorted

/-!
# Tidying by commands

Commands run on a tree of files one after the other (`Steps.onTree`). What they find in a file
(`FileTree.document`, `FileTree.graph`) and what they print is said command by command
(`onTree_validate`, `onTree_validate_fix`, `onTree_fix`, `onTree_fix_output`). A tidied graph that
was written to a file is found in it again (`graph_of_write`), so that looking at the file and
tidying on the way say the same, and tidying the file once more has nothing to do.
-/

namespace Dataflow

variable {σ α β : Type} {s s' : Console σ} {t t' : FileTree}

/-! ## Steps on a tree of files -/

/-- What steps give, print and leave behind on a tree of files. -/
def Steps.onTree (steps : Steps σ (StateM FileTree) α) (s : Console σ) (t : FileTree) :
    Except CommandError α × Console σ × FileTree :=
  let ((result, s'), t') := (steps.run.run s).run t
  (result, s', t')

namespace Steps

variable {steps : Steps σ (StateM FileTree) α} {next : α → Steps σ (StateM FileTree) β}

/-- A step that succeeds hands the console and the tree on to the next. -/
theorem onTree_bind_ok {a : α} (first : onTree steps s t = (.ok a, s', t')) :
    onTree (steps >>= next) s t = onTree (next a) s' t' := by
  unfold onTree at *
  rcases found : (steps.run.run s).run t with ⟨⟨result, console⟩, tree⟩
  rw [found] at first
  cases first
  rw [ExceptT.run_bind, StateT.run_bind, StateT.run_bind, found]
  rfl

/-- A step that fails ends the command, with the console and the tree as they are by then. -/
theorem onTree_bind_error {e : CommandError} (first : onTree steps s t = (.error e, s', t')) :
    onTree (steps >>= next) s t = (.error e, s', t') := by
  unfold onTree at *
  rcases found : (steps.run.run s).run t with ⟨⟨result, console⟩, tree⟩
  rw [found] at first
  cases first
  rw [ExceptT.run_bind, StateT.run_bind, StateT.run_bind, found]
  rfl

theorem onTree_say (lines : List String) :
    onTree (Command.say lines) s t = (.ok (), { s with stdout := s.stdout ++ lines }, t) := rfl

theorem onTree_note (lines : List String) :
    onTree (Command.note lines) s t = (.ok (), { s with stderr := s.stderr ++ lines }, t) := rfl

theorem onTree_lift (x : StateM FileTree α) :
    onTree (liftM x : Steps σ (StateM FileTree) α) s t = (.ok (x.run t).1, s, (x.run t).2) := rfl

end Steps

/-! ## What is in a file -/

namespace FileTree

/-- The document in a file. -/
def document (t : FileTree) (path : String) : Except CommandError Json :=
  match t.read path with
  | .error e => .error (.file e.message)
  | .ok text =>
    match Json.parse? text with
    | some v => .ok v
    | none => .error .notJson

/-- The graph in a file. -/
def graph (t : FileTree) (path : String) : Except CommandError Graph := do
  match Graph.ofDocument (← t.document path) with
  | .ok g => return g
  | .error cause => throw (.notGraph path cause)

theorem document_eq_ok_iff {path : String} {v : Json} : t.document path = .ok v ↔
    ∃ text, t.read path = .ok text ∧ Json.parse? text = some v := by
  unfold document
  cases t.read path with
  | error e => simp
  | ok text => cases found : Json.parse? text <;> simp [found]

/-- A file holds a graph when its document decodes to one. -/
theorem graph_eq_ok_iff {path : String} {g : Graph} : t.graph path = .ok g ↔
    ∃ v, t.document path = .ok v ∧ Graph.ofDocument v = .ok g := by
  unfold graph
  rw [bind_eq_ok_iff]
  refine exists_congr fun v => and_congr_right fun _ => ?_
  cases Graph.ofDocument v with
  | error cause => exact ⟨nofun, nofun⟩
  | ok g' => exact Except.ok.injEq g' g ▸ Except.ok.injEq g' g ▸ Iff.rfl

theorem read_run (path : String) :
    (access.read path).run t = ((t.read path).mapError FileError.message, t) := rfl

theorem write_run (path content : String) : (access.write path content).run t =
    match t.write path content with
    | .ok t' => (.ok (), t')
    | .error e => (.error e.message, t) := by
  show (match t.write path content with | .ok t' => _ | .error e => _ : StateM FileTree _).run t = _
  cases t.write path content <;> rfl

end FileTree

namespace Command

open Steps

/-- Reading a document leaves the console and the tree alone. -/
theorem onTree_document (path : String) :
    onTree (document FileTree.access path) s t = (t.document path, s, t) := by
  unfold document FileTree.document
  rw [onTree_bind_ok (onTree_lift _), FileTree.read_run]
  cases t.read path with
  | error e => rfl
  | ok text =>
      dsimp only [Except.mapError]
      cases Json.parse? text <;> rfl

theorem onTree_graph (path : String) :
    onTree (graph FileTree.access path) s t = (t.graph path, s, t) := by
  unfold graph FileTree.graph
  cases found : t.document path with
  | error e => exact onTree_bind_error (by rw [onTree_document, found])
  | ok v =>
      rw [onTree_bind_ok (by rw [onTree_document, found])]
      show onTree (match Graph.ofDocument v with | .ok g => _ | .error cause => _) s t =
        ((match Graph.ofDocument v with | .ok g => _ | .error cause => _), s, t)
      cases Graph.ofDocument v <;> rfl

/-- Whichever manifest a command is carried out with, its defaults are sorted. -/
theorem isSorted_of_onTree_manifest {path? : Option String} {types : Manifest}
    (found : onTree (manifest FileTree.access path?) s t = (.ok types, s', t')) :
    types.IsSorted := by
  cases path? with
  | none =>
      cases found
      exact Manifest.builtin_isSorted
  | some path =>
      unfold manifest at found
      rw [onTree_bind_ok (onTree_lift _), FileTree.read_run] at found
      cases read : t.read path with
      | error e =>
          rw [read] at found
          cases found
      | ok text =>
          rw [read] at found
          dsimp only [Except.mapError] at found
          cases parsed : Manifest.parse text with
          | error failure =>
              rw [parsed] at found
              cases found
          | ok m =>
              rw [parsed] at found
              cases found
              exact Manifest.isSorted_of_parse parsed

/-! ## What commands print -/

variable {types : Manifest} {env : String → Option String} {transport : Transport σ}

/-- What is printed on a report. -/
def findings (r : Report) : List String :=
  r.lines ++ if r.ok then ["Graph is valid"] else []

/-- Without repairs, the report on the document is printed as it stands. -/
theorem onTree_validate {path : String} {v : Json} (found : t.document path = .ok v) :
    onTree ((validate path false).run types FileTree.access env transport) s t =
      (.ok (Report.ofDocument v types).ok,
        { s with stdout := s.stdout ++ findings (Report.ofDocument v types) }, t) := by
  have read : onTree (document FileTree.access path) s t = (.ok v, s, t) := by
    rw [onTree_document, found]
  exact (onTree_bind_ok read).trans (onTree_bind_ok (onTree_say _))

/-- With repairs, they are printed before the report on the tidied graph; the file stays as it is.
-/
theorem onTree_validate_fix {path : String} {g : Graph} (found : t.graph path = .ok g) :
    onTree ((validate path true).run types FileTree.access env transport) s t =
      (.ok ((g.tidied types).validate types).ok,
        { s with stdout := s.stdout ++
          ((g.tidy types).lines ++ findings ((g.tidied types).validate types)) }, t) := by
  have read : onTree (graph FileTree.access path) s t = (.ok g, s, t) := by
    rw [onTree_graph, found]
  refine (onTree_bind_ok read).trans ((onTree_bind_ok (onTree_say _)).trans ?_)
  rw [List.append_assoc]
  rfl

/-- Without an output file, the tidied graph is printed and the repairs are noted beside it. -/
theorem onTree_fix {path : String} {g : Graph} (found : t.graph path = .ok g) :
    onTree ((fix path none).run types FileTree.access env transport) s t =
      (.ok true, { s with
        stdout := s.stdout ++ [(g.tidied types).toJson.pretty]
        stderr := s.stderr ++ (g.tidy types).lines }, t) := by
  have read : onTree (graph FileTree.access path) s t = (.ok g, s, t) := by
    rw [onTree_graph, found]
  exact (onTree_bind_ok read).trans ((onTree_bind_ok (onTree_note _)).trans
    (onTree_bind_ok (onTree_say _)))

theorem onTree_deliver (text output : String) :
    onTree (deliver FileTree.access text (some output)) s t =
      match t.write output (text ++ "\n") with
      | .ok t' => (.ok (), { s with stderr := s.stderr ++ ["Wrote " ++ output] }, t')
      | .error e => (.error (.file e.message), s, t) := by
  refine (onTree_bind_ok (onTree_lift _)).trans ?_
  rw [FileTree.write_run]
  cases t.write output (text ++ "\n") <;> rfl

/-- With an output file, the tidied graph is written there, or the command fails with the reason.
-/
theorem onTree_fix_output {path output : String} {g : Graph} (found : t.graph path = .ok g) :
    onTree ((fix path (some output)).run types FileTree.access env transport) s t =
      match t.write output ((g.tidied types).toJson.pretty ++ "\n") with
      | .ok t' =>
        (.ok true, { s with
          stderr := s.stderr ++ (g.tidy types).lines ++ ["Wrote " ++ output] }, t')
      | .error e =>
        (.error (.file e.message), { s with stderr := s.stderr ++ (g.tidy types).lines }, t) := by
  have read : onTree (graph FileTree.access path) s t = (.ok g, s, t) := by
    rw [onTree_graph, found]
  refine (onTree_bind_ok read).trans ((onTree_bind_ok (onTree_note _)).trans ?_)
  have delivered := onTree_deliver (s := { s with stderr := s.stderr ++ (g.tidy types).lines })
    (t := t) (g.tidied types).toJson.pretty output
  cases written : t.write output ((g.tidied types).toJson.pretty ++ "\n") with
  | ok t' =>
      rw [written] at delivered
      exact onTree_bind_ok delivered
  | error e =>
      rw [written] at delivered
      exact onTree_bind_error delivered

/-! ## Looking at what was written -/

/-- Graphs are loaded with sorted values, and written as they are read. -/
theorem loaded_graph {path : String} {g : Graph} (found : t.graph path = .ok g) :
    g.IsSorted ∧ g.reread = g := by
  obtain ⟨v, document, read⟩ := FileTree.graph_eq_ok_iff.mp found
  obtain ⟨text, -, parsed⟩ := FileTree.document_eq_ok_iff.mp document
  exact ⟨Graph.isSorted_of_ofDocument (Json.parse?_isSorted parsed) read,
    Graph.reread_of_ofDocument read⟩

/-- A tidied graph that was written to a file is found in the file. -/
theorem document_of_write {path output : String} {g : Graph} (sorted : types.IsSorted)
    (found : t.graph path = .ok g)
    (legible : Json.Legible Json.Reader.nestingLimit (g.tidied types).toJson)
    (written : t.write output ((g.tidied types).toJson.pretty ++ "\n") = .ok t') :
    ∃ v, t'.document output = .ok v ∧ Graph.ofDocument v = .ok (g.tidied types) := by
  obtain ⟨values, same⟩ := loaded_graph found
  refine ⟨(g.tidied types).toJson.sorted, ?_, ?_⟩
  · -- the text is that of the document, up to the order of fields
    exact FileTree.document_eq_ok_iff.mpr
      ⟨_, FileTree.read_of_write written, legible.parse?_line⟩
  · -- and the order makes no difference, since the values were in order before
    rw [Graph.ofDocument_sorted (values.tidied sorted), Graph.reread_tidied same]

/-- Runs a command on a tree of files. -/
def runIn (c : Command) (types : Manifest) (env : String → Option String)
    (transport : Transport σ) (world : σ) (t : FileTree) : Ending σ × FileTree :=
  let (result, console, t') := onTree (c.run types FileTree.access env transport) { world } t
  ({ console, result }, t')

variable {world : σ} {e : Ending σ}

theorem runIn_validate {path : String} {v : Json} {g : Graph} (found : t.document path = .ok v)
    (read : Graph.ofDocument v = .ok g) :
    (validate path false).runIn types env transport world t =
      (⟨{ world, stdout := findings (g.validate types) }, .ok (g.validate types).ok⟩, t) := by
  have report : Report.ofDocument v types = g.validate types := by rw [Report.ofDocument, read]
  rw [runIn, onTree_validate found, report, List.nil_append]

theorem runIn_validate_fix {path : String} {g : Graph} (found : t.graph path = .ok g) :
    (validate path true).runIn types env transport world t =
      (⟨{ world, stdout := (g.tidy types).lines ++ findings ((g.tidied types).validate types) },
        .ok ((g.tidied types).validate types).ok⟩, t) := by
  rw [runIn, onTree_validate_fix found, List.nil_append]

theorem runIn_fix {path : String} {g : Graph} (found : t.graph path = .ok g) :
    (fix path none).runIn types env transport world t =
      (⟨{ world, stdout := [(g.tidied types).toJson.pretty], stderr := (g.tidy types).lines },
        .ok true⟩, t) := by
  rw [runIn, onTree_fix found, List.nil_append, List.nil_append]

/-- Tidying into a file ends well just where the file is written. -/
theorem runIn_fix_output {path output : String} {g : Graph} (found : t.graph path = .ok g) :
    (fix path (some output)).runIn types env transport world t = (e, t') ∧ e.result = .ok true ↔
      t.write output ((g.tidied types).toJson.pretty ++ "\n") = .ok t' ∧
      e = ⟨{ world, stderr := (g.tidy types).lines ++ ["Wrote " ++ output] }, .ok true⟩ := by
  rw [runIn, onTree_fix_output found]
  cases t.write output ((g.tidied types).toJson.pretty ++ "\n") with
  | error cause =>
      constructor
      · rintro ⟨same, done⟩
        cases same
        cases done
      · rintro ⟨same, -⟩
        cases same
  | ok tree =>
      constructor
      · rintro ⟨same, -⟩
        cases same
        exact ⟨rfl, rfl⟩
      · rintro ⟨same, rfl⟩
        cases same
        exact ⟨rfl, rfl⟩

/-- A repair whose output can be written succeeds and leaves the tree with it. -/
theorem exists_runIn_fix_output {path output : String} {g : Graph} (found : t.graph path = .ok g)
    (types : Manifest) (env : String → Option String) (transport : Transport σ) (world : σ)
    (written : t.write output ((g.tidied types).toJson.pretty ++ "\n") = .ok t') :
    ∃ e, (fix path (some output)).runIn types env transport world t = (e, t') ∧
      e.result = .ok true :=
  ⟨_, (runIn_fix_output found).mpr ⟨written, rfl⟩⟩

/-- A graph that is tidied into a file and one that is tidied on the way to its report have the
same findings and the same status; beside the findings there are the repairs, which the first
command has told of already. Whoever tidies the file again finds nothing to repair and prints or
writes the same text. The defaults of the types are in order, as they are in every manifest that a
command can be carried out with (`isSorted_of_onTree_manifest`). -/
theorem validate_after_fix {types : Manifest} (sorted : types.IsSorted) {source output : String}
    {g : Graph} (found : t.graph source = .ok g)
    (legible : Json.Legible Json.Reader.nestingLimit (g.tidied types).toJson)
    (env : String → Option String) (transport : Transport σ) (world : σ) {e : Ending σ}
    (fixed : (fix source (some output)).runIn types env transport world t = (e, t'))
    (done : e.result = .ok true) :
    let onTheWay := ((validate source true).runIn types env transport world t).1
    let after := ((validate output false).runIn types env transport world t').1
    let printed := ((fix output none).runIn types env transport world t').1
    let repairs := (g.tidy types).lines
    let text := (g.tidied types).toJson.pretty
    (onTheWay.console.stdout = repairs ++ after.console.stdout ∧
      onTheWay.result = after.result ∧ onTheWay.status = after.status) ∧
    (e.console.stderr = repairs ++ ["Wrote " ++ output] ∧
      t'.read output = .ok (text ++ "\n")) ∧
    (printed.result = .ok true ∧ printed.console.stdout = [text] ∧ printed.console.stderr = []) ∧
    (∃ e' t'', (fix output (some output)).runIn types env transport world t' = (e', t'') ∧
      e'.result = .ok true) ∧
    ∀ other e' t'', (fix output (some other)).runIn types env transport world t' = (e', t'') →
      e'.result = .ok true →
      e'.console.stderr = ["Wrote " ++ other] ∧ t''.read other = t'.read output := by
  intro onTheWay after printed repairs text
  obtain ⟨written, rfl⟩ := (runIn_fix_output found).mp ⟨fixed, done⟩
  obtain ⟨v, document, read⟩ := document_of_write sorted found legible written
  have there : t'.graph output = .ok (g.tidied types) :=
    FileTree.graph_eq_ok_iff.mpr ⟨v, document, read⟩
  -- what was tidied is tidy, so that a second pass does nothing
  have tidy := g.tidied_isTidy types
  have same : (g.tidied types).tidied types = g.tidied types := Graph.tidied_eq_self_iff.mpr tidy
  have nothing : ((g.tidied types).tidy types).lines = [] := by
    show ((g.tidied types).fixes types).map _ = []
    rw [tidy.fixes_eq_nil, List.map_nil]
  have first : onTheWay = _ := congrArg Prod.fst (runIn_validate_fix found)
  have second : after = _ := congrArg Prod.fst (runIn_validate document read)
  have third : printed = _ := congrArg Prod.fst (runIn_fix there)
  rw [same, nothing] at third
  have result : onTheWay.result = after.result := by
    rw [first, second]
  refine ⟨⟨?_, result, ?_⟩, ⟨rfl, FileTree.read_of_write written⟩, ?_, ?_, ?_⟩
  · rw [first, second]
  · rw [Ending.status, Ending.status, result]
  · rw [third]
    exact ⟨rfl, rfl, rfl⟩
  · obtain ⟨t'', again⟩ := FileTree.exists_write written
      (((g.tidied types).tidied types).toJson.pretty ++ "\n")
    obtain ⟨e', run', done'⟩ := exists_runIn_fix_output there types env transport world again
    exact ⟨e', t'', run', done'⟩
  · -- wherever it is written to, it is the text that is there already
    intro other e' t'' run' done'
    obtain ⟨written', rfl⟩ := (runIn_fix_output there).mp ⟨run', done'⟩
    rw [same] at written'
    rw [FileTree.read_of_write written', FileTree.read_of_write written, nothing]
    exact ⟨rfl, rfl⟩

/-! ## A file with something to repair -/

namespace Repair

/-- An edge to a node that is not there, a parameter too many and one too few, an empty label, and
a type that is not known. -/
def document : Json := .object [
  ("edges", .array [
    .object [("from", .number (.natural 1)), ("to", .string "m")],
    .object [("from", .number (.natural 1)), ("to", .string "x")]]),
  ("nodes", .array [
    .object [("id", .number (.natural 1)), ("label", .string ""),
      ("params", .object [("body", .string "hi"), ("stale", .number (.natural 1))]),
      ("type", .string "note")],
    .object [("id", .string "m"), ("type", .string "sale")]])]

/-- A manifest of one type. -/
def typesText : String := "\x7b\"note\": \x7b\"outputs\": 1, " ++
  "\"defaults\": \x7b\"size\": 3, \"body\": \"\"\x7d\x7d\x7d"

def tree : FileTree where
  directories := [[], ["work"]]
  files := [(["in.json", "work"], document.compact), (["types.json", "work"], typesText)]
  current := ["work"]

def notes : Manifest := ({} : Manifest).insert "note" {
  outputs? := some 1
  defaults := .ofList [("body", .string ""), ("size", .number (.natural 3))] }

def graph : Graph where
  nodes := [
    { id := "1", type := "note"
      params? := some (.ofList [("body", .string "hi"), ("stale", .number (.natural 1))]) },
    { id := "m", type := "sale" }]
  edges := [{ source := "1", target := "m" }, { source := "1", target := "x" }]

def repairedParams : List (String × Json) := [
  ("body", .string "hi"), ("size", .number (.natural 3))]

def repaired : Graph where
  nodes := [
    { id := "1", type := "note", params? := some (.ofList repairedParams) },
    { id := "m", type := "sale" }]
  edges := [{ source := "1", target := "m" }]

def noVariable (_ : String) : Option String := none

/-- A network that answers nothing. -/
def offline : Transport Unit := fun _ world => (⟨0, .refused⟩, world)

def repairs : List String := [
  "[FIX] edge/remove-dangling: removed edges referencing missing nodes",
  "[FIX] param/normalize: normalized params on 1"]

theorem validate_after_fix_repair :
    onTree (manifest FileTree.access (some "types.json")) { world := () } tree =
      (.ok notes, { world := () }, tree) ∧
    notes.IsSorted ∧ tree.graph "in.json" = .ok graph ∧
    Json.Legible Json.Reader.nestingLimit (graph.tidied notes).toJson ∧
    ∃ e t', (fix "in.json" (some "out.json")).runIn notes noVariable offline () tree = (e, t') ∧
      e.result = .ok true ∧ e.console.stderr = repairs ++ ["Wrote " ++ "out.json"] ∧
      let onTheWay := ((validate "in.json" true).runIn notes noVariable offline () tree).1
      let after := ((validate "out.json" false).runIn notes noVariable offline () t').1
      onTheWay.console.stdout = repairs ++ after.console.stdout ∧ onTheWay.status = after.status ∧
      ((fix "out.json" none).runIn notes noVariable offline () t').1.console.stderr = [] := by
  have loaded : onTree (manifest FileTree.access (some "types.json")) { world := () } tree =
      (.ok notes, { world := () }, tree) := by
    have read : tree.read "types.json" = .ok typesText := rfl
    have parsed : Manifest.parse typesText = .ok notes := rfl
    unfold manifest
    rw [onTree_bind_ok (onTree_lift _), FileTree.read_run, read]
    dsimp only [Except.mapError]
    rw [parsed]
    rfl
  have sorted := isSorted_of_onTree_manifest loaded
  have found : tree.graph "in.json" = .ok graph := by
    have legible : Json.Legible Json.Reader.nestingLimit document := by
      simp [Json.Reader.nestingLimit, document, Json.legible_object_iff, Json.legible_array_iff,
        Json.Legible.string, Json.Legible.number, Number.readsBack_natural]
    have same : document.sorted = document := rfl
    have text : tree.read "in.json" = .ok document.compact := rfl
    have read : tree.document "in.json" = .ok document :=
      FileTree.document_eq_ok_iff.mpr ⟨_, text, same ▸ legible.parse?_compact⟩
    exact FileTree.graph_eq_ok_iff.mpr ⟨document, read, rfl⟩
  have legible : Json.Legible Json.Reader.nestingLimit (graph.tidied notes).toJson := by
    have params : Json.Legible 124 (Json.ofTable (.ofList repairedParams)) := by
      refine .object fun e member => ?_
      have listed := Table.mem_of_mem_ofList member
      simp only [repairedParams, List.mem_cons, List.not_mem_nil, or_false] at listed
      rcases listed with rfl | rfl
      · exact .string "hi"
      · exact .number (Number.readsBack_natural 3)
    have tidied : graph.tidied notes = repaired := rfl
    rw [tidied]
    simp [Json.Reader.nestingLimit, repaired, Graph.toJson, Node.toJson, Edge.toJson,
      Json.fieldOf, Json.legible_object_iff, Json.legible_array_iff, Json.Legible.string, params]
  have lines : (graph.tidy notes).lines = repairs := by decide +kernel
  have writes : ∀ content, tree.write "out.json" content =
      .ok { tree with files := (["out.json", "work"], content) :: tree.files } := by
    intro content
    rfl
  obtain ⟨t', written⟩ : ∃ t', tree.write "out.json"
      ((graph.tidied notes).toJson.pretty ++ "\n") = .ok t' := ⟨_, writes _⟩
  obtain ⟨e, fixed, done⟩ := exists_runIn_fix_output found notes noVariable offline () written
  have agree := validate_after_fix sorted found legible noVariable offline () fixed done
  rw [lines] at agree
  obtain ⟨⟨stdout, -, status⟩, ⟨stderr, -⟩, ⟨-, -, again⟩, -⟩ := agree
  exact ⟨loaded, sorted, found, legible, e, t', fixed, done, stderr, stdout, status, again⟩

end Repair

end Command

end Dataflow
