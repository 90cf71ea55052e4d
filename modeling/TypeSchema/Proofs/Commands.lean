import TypeSchema.Command.Definitions
import TypeSchema.Proofs.Independence

namespace TypeSchema

namespace Error

/-- What is wrong with an expression, not with a file. -/
def isOfExpression : Error → Bool
  | parse _ => true
  | unsupported _ => true
  | _ => false

end Error

namespace Command

/-- What one expression is described as, or why it is not. -/
def describe (registry : Registry) (expression : String) : Except Error Descriptor := do
  let e ← Error.ofParse (TypeExpr.parse expression)
  Error.ofClassify (registry.classify e)

theorem descriptors_eq {σ : Type} [DefinitionSink σ] (r : Resolver σ) (expressions : List String) :
    descriptors r expressions =
      (expressions.mapM (describe r.registry)).map (expressions.zip ·) := by
  induction expressions generalizing r with
  | nil => rfl
  | cons expression expressions ih =>
    rw [descriptors, List.mapM_cons, describe]
    cases TypeExpr.parse expression with
    | error fault => rfl
    | ok e =>
      simp only [Error.ofParse, bind, Except.bind, Resolver.classify_eq]
      cases r.registry.classify e with
      | error u => rfl
      | ok d =>
        simp only [ih, Resolver.registry_askAll, Error.ofClassify]
        cases expressions.mapM (describe r.registry) <;> rfl

theorem classify_eq (registry : Registry) (expressions : List String) :
    classify registry false expressions = (expressions.mapM (describe registry)).map fun ds =>
      Json.pretty (.list ((expressions.zip ds).map fun d => classifyEntry false d.1 d.2)) := by
  rw [classify, descriptors_eq]
  show (Except.map _ (expressions.mapM (describe registry)) >>= _) = _
  cases expressions.mapM (describe registry) <;> rfl

theorem describe_eq_ok_iff {registry : Registry} {expression : String} {d : Descriptor} :
    describe registry expression = .ok d ↔
      ∃ e, TypeExpr.parse expression = .ok e ∧ registry.classify e = .ok d := by
  rw [describe]
  cases TypeExpr.parse expression with
  | error fault => simp [Error.ofParse, bind, Except.bind]
  | ok e =>
    cases hc : registry.classify e <;>
      simp [Error.ofParse, Error.ofClassify, bind, Except.bind, hc]

theorem eq_of_describe {registry : Registry} {expression : String} {e : TypeExpr}
    {d d' : Descriptor} (h : describe registry expression = .ok d)
    (hparse : TypeExpr.parse expression = .ok e) (hclassify : registry.classify e = .ok d') :
    d' = d := by
  have h' := describe_eq_ok_iff.mpr ⟨e, hparse, hclassify⟩
  exact Except.ok.inj (h'.symm.trans h)

theorem describe_eq_error_iff {registry : Registry} {expression : String} {error : Error} :
    describe registry expression = .error error ↔
      (∃ fault, TypeExpr.parse expression = .error fault ∧ error = .parse fault) ∨
      ∃ e u, TypeExpr.parse expression = .ok e ∧ registry.classify e = .error u ∧
        error = .unsupported u := by
  rw [describe]
  cases TypeExpr.parse expression with
  | error fault => simp [Error.ofParse, bind, Except.bind, eq_comm]
  | ok e =>
    cases hc : registry.classify e <;>
      simp [Error.ofParse, Error.ofClassify, bind, Except.bind, hc, eq_comm]

/-- The roots that the expressions are read as. -/
def readAll (expressions : List String) : Except Error (List TypeExpr) :=
  expressions.mapM fun x => Error.ofParse (TypeExpr.parse x)

theorem definitionsDocument_eq (registry : Registry) (expressions : List String) :
    definitionsDocument registry expressions = do
      let roots ← readAll expressions
      let ds ← Error.ofClassify (roots.mapM registry.classify)
      return .table [
        ("roots", .list ((expressions.zip ds).map fun d => rootDocument d.1 d.2)),
        ("definitions",
          (DefinitionBuilder.afterCalls registry (roots.map .classify)).finish.document)] := by
  rw [definitionsDocument, readAll]
  cases expressions.mapM fun x => Error.ofParse (TypeExpr.parse x) with
  | error e => rfl
  | ok roots =>
    simp only [bind, Except.bind, buildDefinitions_eq]
    cases roots.mapM registry.classify <;> rfl

section

variable {registry : Registry} {expressions : List String} {ds : List Descriptor}

/-- Reading all expressions first comes to the same where nothing fails. -/
theorem map_describe_eq_iff : expressions.map (describe registry) = ds.map .ok ↔
    ∃ roots, readAll expressions = .ok roots ∧ roots.mapM registry.classify = .ok ds := by
  constructor
  · intro h
    induction expressions generalizing ds with
    | nil =>
      cases ds with
      | nil => exact ⟨[], rfl, rfl⟩
      | cons d ds => cases h
    | cons x expressions ih =>
      cases ds with
      | nil => cases h
      | cons d ds =>
        rw [List.map_cons, List.map_cons, List.cons_eq_cons] at h
        obtain ⟨e, hread, hclassify⟩ := describe_eq_ok_iff.mp h.1
        obtain ⟨roots, hroots, hds⟩ := ih h.2
        refine ⟨e :: roots, ?_, ?_⟩
        · rw [readAll] at hroots
          rw [readAll, List.mapM_cons, hread, hroots]
          rfl
        · rw [List.mapM_cons, hclassify, hds]
          rfl
  · rintro ⟨roots, hroots, hds⟩
    have hread := map_eq_of_mapM_ok hroots
    have hclassify := map_eq_of_mapM_ok hds
    calc expressions.map (describe registry)
        = (expressions.map fun x => Error.ofParse (TypeExpr.parse x)).map fun e =>
            e >>= fun e => Error.ofClassify (registry.classify e) := by rw [List.map_map]; rfl
      _ = (roots.map registry.classify).map Error.ofClassify := by
          rw [hread, List.map_map, List.map_map]; rfl
      _ = ds.map .ok := by rw [hclassify, List.map_map]; rfl

theorem definitionsDocument_of_ok (h : expressions.map (describe registry) = ds.map .ok) :
    ∃ definitions, definitionsDocument registry expressions = .ok (.table [
      ("roots", .list ((expressions.zip ds).map fun d => rootDocument d.1 d.2)),
      ("definitions", definitions)]) := by
  obtain ⟨roots, hroots, hds⟩ := map_describe_eq_iff.mp h
  rw [definitionsDocument_eq, hroots]
  simp only [bind, Except.bind, hds]
  exact ⟨_, rfl⟩

theorem exists_map_eq_of_definitionsDocument {document : Document}
    (h : definitionsDocument registry expressions = .ok document) :
    ∃ ds : List Descriptor, expressions.map (describe registry) = ds.map .ok := by
  rw [definitionsDocument_eq] at h
  cases hroots : readAll expressions with
  | error e =>
    rw [hroots] at h
    cases h
  | ok roots =>
    cases hds : roots.mapM registry.classify with
    | error u =>
      simp only [hroots, bind, Except.bind, hds] at h
      cases h
    | ok ds => exact ⟨ds, map_describe_eq_iff.mpr ⟨roots, hroots, hds⟩⟩

/-- One expression that fails among others that do not makes the whole fail as it does. -/
theorem definitionsDocument_error {before after : List String} {x : String} {e : Error}
    (hothers : ∀ y ∈ before ++ after, ∃ d, describe registry y = .ok d)
    (hx : describe registry x = .error e) :
    definitionsDocument registry (before ++ x :: after) = .error e := by
  obtain ⟨ds, hds⟩ := exists_map_eq_of_ok fun y hy => hothers y (List.mem_append_left _ hy)
  obtain ⟨ds', hds'⟩ := exists_map_eq_of_ok fun y hy => hothers y (List.mem_append_right _ hy)
  obtain ⟨roots, hroots, hclassify⟩ := map_describe_eq_iff.mp hds
  obtain ⟨roots', hroots', -⟩ := map_describe_eq_iff.mp hds'
  rw [definitionsDocument_eq]
  rcases describe_eq_error_iff.mp hx with ⟨fault, hparse, rfl⟩ | ⟨root, u, hparse, hc, rfl⟩
  · -- The expressions in front are read, and this one is not.
    have hread : readAll (before ++ x :: after) = .error (.parse fault) :=
      mapM_append_error (exists_ok_of_map_eq (map_eq_of_mapM_ok hroots)) (by rw [hparse]; rfl)
    rw [hread]
    rfl
  · -- All are read, and the roots in front have descriptors.
    have hread : readAll (before ++ x :: after) = .ok (roots ++ root :: roots') := by
      rw [readAll] at hroots hroots' ⊢
      rw [List.mapM_append, List.mapM_cons, hroots, hparse, hroots']
      rfl
    have hfail : (roots ++ root :: roots').mapM registry.classify = .error u :=
      mapM_append_error (exists_ok_of_map_eq (map_eq_of_mapM_ok hclassify)) hc
    rw [hread]
    simp only [bind, Except.bind, hfail]
    rfl

end

section

variable {σ : Type} {files : FileAccess (StateM σ)} {path text : String} {s : σ}

/-- Directories can be made and files be written, whatever has happened to the files before. -/
def CanWrite (files : FileAccess (StateM σ)) : Prop :=
  ∀ path content s, ((files.createDirectories path).run s).1 = .ok () ∧
    ((files.write path content).run s).1 = .ok ()

theorem run_bind {α β : Type} (x : StateM σ α) (f : α → StateM σ β) (s : σ) :
    (x >>= f).run s = (f (x.run s).1).run (x.run s).2 :=
  rfl

/-- Making a directory fails in its own way, and not at all where files can be written. -/
theorem prepareDirectory_run (files : FileAccess (StateM σ)) (path : String) (s : σ) :
    ((prepareDirectory files path).run s).1 = .ok () ∨
      ¬CanWrite files ∧
        ∃ fault, ((prepareDirectory files path).run s).1 = .error (.outputDirectory fault) := by
  unfold prepareDirectory
  cases Path.parent? path with
  | none => exact .inl rfl
  | some parent =>
    simp only [run_bind]
    split
    · exact .inl rfl
    · rw [run_bind]
      cases hmade : ((files.createDirectories parent).run ((files.holds parent).run s).2).1 with
      | ok _ => exact .inl rfl
      | error fault =>
        refine .inr ⟨fun h => ?_, fault, rfl⟩
        rw [(h parent default _).1] at hmade
        cases hmade

theorem save_run (files : FileAccess (StateM σ)) (path text : String) (s : σ) :
    ((save files path text).run s).1 = .ok () ∨
      ¬CanWrite files ∧
        ∃ e, e.isOfExpression = false ∧ ((save files path text).run s).1 = .error e := by
  unfold save
  rw [run_bind]
  rcases prepareDirectory_run files path s with h | ⟨hno, fault, h⟩
  · rw [h]
    simp only [run_bind]
    cases hwritten : ((files.write path text.toUTF8).run
        ((prepareDirectory files path).run s).2).1 with
    | ok _ => exact .inl rfl
    | error fault =>
      refine .inr ⟨fun hcan => ?_, .outputFile fault, rfl, rfl⟩
      rw [(hcan path text.toUTF8 _).2] at hwritten
      cases hwritten
  · rw [h]
    exact .inr ⟨hno, .outputDirectory fault, rfl, rfl⟩

variable {registry : Registry} {expressions : List String}

/-- Where the expressions fail, the files are not touched. -/
theorem definitions_of_error {e : Error} (h : definitionsDocument registry expressions = .error e)
    (files : FileAccess (StateM σ)) (output : Option String) (s : σ) :
    (definitions files registry expressions output).run s = (.error e, s) := by
  rw [definitions, h]
  rfl

theorem definitions_of_ok {document : Document}
    (h : definitionsDocument registry expressions = .ok document) (files : FileAccess (StateM σ))
    (output : Option String) (s : σ) :
    (∃ out, ((definitions files registry expressions output).run s).1 = .ok out) ∨
      ¬CanWrite files ∧ ∃ e, e.isOfExpression = false ∧
        ((definitions files registry expressions output).run s).1 = .error e := by
  rw [definitions, h]
  cases output with
  | none => exact .inl ⟨_, rfl⟩
  | some path =>
    simp only [run_bind]
    rcases save_run files path (writtenAs (some path) document) s with h | ⟨hno, e, he, h⟩
    · rw [h]
      exact .inl ⟨none, rfl⟩
    · rw [h]
      exact .inr ⟨hno, e, he, rfl⟩

end

theorem classify_of_ok {registry : Registry} {expressions : List String} {ds : List Descriptor}
    (h : expressions.map (describe registry) = ds.map .ok) :
    classify registry false expressions = .ok (Json.pretty
      (.list ((expressions.zip ds).map fun d => classifyEntry false d.1 d.2))) := by
  rw [classify_eq, mapM_of_map_eq h]
  rfl

theorem exists_map_eq_of_classify {registry : Registry} {expressions : List String} {text : String}
    (h : classify registry false expressions = .ok text) :
    ∃ ds : List Descriptor, expressions.map (describe registry) = ds.map .ok := by
  rw [classify_eq] at h
  cases hds : expressions.mapM (describe registry) with
  | error e =>
    rw [hds] at h
    cases h
  | ok ds => exact ⟨ds, map_eq_of_mapM_ok hds⟩

theorem entries_eq (d : Descriptor) :
    d.entries = ("schemaType", .text d.schemaType) :: ("arrayType", .text d.arrayType) ::
      if d.crossModule = "" then [] else [("crossModule", .text d.crossModule)] := by
  by_cases hmodule : d.crossModule = "" <;>
    simp [Descriptor.entries, Descriptor.isReference, hmodule]

/-- What the two documents hold for the expression at one place. -/
theorem getElem?_documents {registry : Registry} {expressions : List String} {ds : List Descriptor}
    (h : expressions.map (describe registry) = ds.map .ok) {i : Nat} {x : String}
    (hx : expressions[i]? = some x) :
    ∃ e d, TypeExpr.parse x = .ok e ∧ registry.classify e = .ok d ∧
      ((expressions.zip ds).map fun d => classifyEntry false d.1 d.2)[i]? =
        some (.table (("expression", .text x) :: d.entries)) ∧
      ((expressions.zip ds).map fun d => rootDocument d.1 d.2)[i]? =
        some (.table [("expression", .text x), ("descriptor", .table d.entries)]) := by
  obtain ⟨d, hd, hdescribe⟩ := exists_getElem?_of_map_eq h hx
  obtain ⟨e, hparse, hclassify⟩ := describe_eq_ok_iff.mp hdescribe
  have hzip : (expressions.zip ds)[i]? = some (x, d) :=
    List.getElem?_zip_eq_some.mpr ⟨hx, hd⟩
  refine ⟨e, d, hparse, hclassify, ?_, ?_⟩
  · rw [List.getElem?_map, hzip]
    rfl
  · rw [List.getElem?_map, hzip]
    rfl

/-- The two commands succeed on the same expressions. Then each expression has one entry in what the
first one prints and one among the roots of the other, at its own place, and both hold its text and
the same descriptor. Where one expression alone fails, both fail as it does. Writing aside, nothing
else fails, and no file is touched unless all expressions have a descriptor. -/
theorem commands_agree (registry : Registry) (expressions : List String) :
    ((∃ text, classify registry false expressions = .ok text) ↔
      ∃ document, definitionsDocument registry expressions = .ok document) ∧
    (∀ text document, classify registry false expressions = .ok text →
      definitionsDocument registry expressions = .ok document →
      ∃ (entries roots : List Document) (definitions : Document),
        text = Json.pretty (.list entries) ∧
        document = .table [("roots", .list roots), ("definitions", definitions)] ∧
        entries.length = expressions.length ∧ roots.length = expressions.length ∧
        ∀ (i : Nat) x, expressions[i]? = some x →
          ∃ e d, TypeExpr.parse x = .ok e ∧ registry.classify e = .ok d ∧
            let fields : List (String × Document) :=
              ("schemaType", .text d.schemaType) :: ("arrayType", .text d.arrayType) ::
                if d.crossModule = "" then [] else [("crossModule", .text d.crossModule)]
            entries[i]? = some (.table (("expression", .text x) :: fields)) ∧
            roots[i]? = some (.table [("expression", .text x), ("descriptor", .table fields)])) ∧
    (∀ before x after e, expressions = before ++ x :: after →
      (∀ y ∈ before ++ after, ∃ d, describe registry y = .ok d) →
      describe registry x = .error e →
      classify registry false expressions = .error e ∧
        definitionsDocument registry expressions = .error e) ∧
    ∀ (σ : Type) (files : FileAccess (StateM σ)) (output : Option String) (s : σ),
      (CanWrite files → ((∃ text, classify registry false expressions = .ok text) ↔
        ∃ out, ((definitions files registry expressions output).run s).1 = .ok out)) ∧
      (∀ document, definitionsDocument registry expressions = .ok document →
        (definitions files registry expressions none).run s =
          (.ok (some (Json.pretty document)), s)) ∧
      (∀ e, definitionsDocument registry expressions = .error e →
        (definitions files registry expressions output).run s = (.error e, s)) ∧
      ∀ e s', (definitions files registry expressions output).run s = (.error e, s') →
        e.isOfExpression = true → s' = s := by
  have hiff : (∃ text, classify registry false expressions = .ok text) ↔
      ∃ document, definitionsDocument registry expressions = .ok document := by
    constructor
    · rintro ⟨text, h⟩
      obtain ⟨ds, hds⟩ := exists_map_eq_of_classify h
      obtain ⟨definitions, hdocument⟩ := definitionsDocument_of_ok hds
      exact ⟨_, hdocument⟩
    · rintro ⟨document, h⟩
      obtain ⟨ds, hds⟩ := exists_map_eq_of_definitionsDocument h
      exact ⟨_, classify_of_ok hds⟩
  refine ⟨hiff, ?_, ?_, ?_⟩
  · intro text document htext hdocument
    obtain ⟨ds, hds⟩ := exists_map_eq_of_classify htext
    obtain ⟨definitions, hok⟩ := definitionsDocument_of_ok hds
    rw [classify_of_ok hds, Except.ok.injEq] at htext
    rw [hok, Except.ok.injEq] at hdocument
    have hlength := congrArg List.length hds
    rw [List.length_map, List.length_map] at hlength
    refine ⟨_, _, definitions, htext.symm, hdocument.symm, ?_, ?_, ?_⟩
    · rw [List.length_map, List.length_zip, ← hlength, Nat.min_self]
    · rw [List.length_map, List.length_zip, ← hlength, Nat.min_self]
    · intro i x hx
      obtain ⟨e, d, hparse, hclassify, hentry, hroot⟩ := getElem?_documents hds hx
      rw [entries_eq] at hentry hroot
      exact ⟨e, d, hparse, hclassify, hentry, hroot⟩
  · rintro before x after e rfl hothers hx
    refine ⟨?_, definitionsDocument_error hothers hx⟩
    rw [classify_eq, mapM_append_error (fun y hy => hothers y (List.mem_append_left _ hy)) hx]
    rfl
  · intro σ files output s
    refine ⟨fun hcan => ?_, fun document hdocument => ?_,
      fun e he => definitions_of_error he files output s, ?_⟩
    · rw [hiff]
      cases h : definitionsDocument registry expressions with
      | error e => simp [definitions_of_error h]
      | ok document =>
        rcases definitions_of_ok h files output s with hout | ⟨hno, -⟩
        · simp [hout]
        · exact absurd hcan hno
    · rw [definitions, hdocument]
      rfl
    · intro e s' hrun he
      cases h : definitionsDocument registry expressions with
      | error e' =>
        rw [definitions_of_error h] at hrun
        exact (congrArg Prod.snd hrun).symm
      | ok document =>
        rcases definitions_of_ok h files output s with ⟨out, hout⟩ | ⟨-, e', he', hfail⟩
        · rw [hrun] at hout
          cases hout
        · rw [hrun] at hfail
          cases hfail
          rw [he'] at he
          exact absurd he (by decide)

/-- Files of which only the number of changes is kept. -/
def countedFiles : FileAccess (StateM Nat) where
  read _ := pure (.error .notFound)
  holds _ := pure false
  createDirectories _ := fun changes => (.ok (), changes + 1)
  write _ _ := fun changes => (.ok (), changes + 1)

theorem eq_of_getElem?_pair {α : Type} {l : List α} {a b : α} (hlength : l.length = 2)
    (ha : l[0]? = some a) (hb : l[1]? = some b) : l = [a, b] := by
  obtain ⟨x, y, rfl⟩ := List.length_eq_two.mp hlength
  rw [Option.some.inj ha, Option.some.inj hb]

/-- A chan among good expressions fails in both commands and nothing is written; the good ones are
described alike. -/
theorem commands_agree_shop :
    let good := ["*models.Widget", "[]int"]
    let bad := ["int", "chan int", "string"]
    let unsupported := Error.unsupported ⟨"chan int"⟩
    let result := (definitions countedFiles .shop bad (some "out/api.json")).run 0
    let widget : List (String × Document) :=
      [("schemaType", .text "Widget"), ("arrayType", .text "string"),
        ("crossModule", .text "models")]
    let numbers : List (String × Document) :=
      [("schemaType", .text "array"), ("arrayType", .text "integer")]
    let entries : List Document := [.table (("expression", .text "*models.Widget") :: widget),
      .table (("expression", .text "[]int") :: numbers)]
    let roots : List Document :=
      [.table [("expression", .text "*models.Widget"), ("descriptor", .table widget)],
        .table [("expression", .text "[]int"), ("descriptor", .table numbers)]]
    let printed := "[
  \x7b
    \"expression\": \"*models.Widget\",
    \"schemaType\": \"Widget\",
    \"arrayType\": \"string\",
    \"crossModule\": \"models\"
  \x7d,
  \x7b
    \"expression\": \"[]int\",
    \"schemaType\": \"array\",
    \"arrayType\": \"integer\"
  \x7d
]"
    classify .shop false good = .ok (Json.pretty (.list entries)) ∧
      Json.pretty (.list entries) = printed ∧
      (∃ definitions, definitionsDocument .shop good =
        .ok (.table [("roots", .list roots), ("definitions", definitions)])) ∧
      CanWrite countedFiles ∧
      (∃ out, ((definitions countedFiles .shop good (some "out/api.json")).run 0).1 = .ok out) ∧
      describe .shop "chan int" = .error unsupported ∧
      (∀ y ∈ ["int"] ++ ["string"], ∃ d, describe .shop y = .ok d) ∧
      classify .shop false bad = .error unsupported ∧
      definitionsDocument .shop bad = .error unsupported ∧
      result.1 = .error unsupported ∧ result.2 = 0 := by
  intro good bad unsupported result widget numbers entries roots printed
  have hprinted : Json.pretty (.list entries) = printed := by decide +kernel
  have hds : good.map (describe .shop) =
      [⟨"Widget", "string", "models"⟩, ⟨"array", "integer", ""⟩].map .ok := by decide +kernel
  have hx : describe .shop "chan int" = .error unsupported := by decide +kernel
  have hothers : ∀ y ∈ ["int"] ++ ["string"], ∃ d, describe .shop y = .ok d := by
    have hothers' : (["int"] ++ ["string"]).map (describe .shop) =
        [.ofKind .integer, .ofKind .string].map .ok := by decide +kernel
    exact exists_ok_of_map_eq hothers'
  have hwrite : CanWrite countedFiles := fun _ _ _ => ⟨rfl, rfl⟩
  obtain ⟨hiff, halike, -, hfiles⟩ := commands_agree .shop good
  obtain ⟨-, -, hfail, hfiles'⟩ := commands_agree .shop bad
  -- What the good expressions are described as, and so what stands at their places.
  have htext := classify_of_ok hds
  obtain ⟨document, hdocument⟩ := hiff.mp ⟨_, htext⟩
  obtain ⟨entries', roots', defs, hentries, hroots, hlength, hlength', hat⟩ :=
    halike _ document htext hdocument
  obtain ⟨e₀, d₀, hparse₀, hclassify₀, hentry₀, hroot₀⟩ := hat 0 "*models.Widget" rfl
  obtain ⟨e₁, d₁, hparse₁, hclassify₁, hentry₁, hroot₁⟩ := hat 1 "[]int" rfl
  simp only [good, List.map_cons, List.map_nil, List.cons_eq_cons, and_true] at hds
  obtain rfl := eq_of_describe hds.1 hparse₀ hclassify₀
  obtain rfl := eq_of_describe hds.2 hparse₁ hclassify₁
  have hentries' : entries' = entries := eq_of_getElem?_pair hlength hentry₀ hentry₁
  have hroots' : roots' = roots := eq_of_getElem?_pair hlength' hroot₀ hroot₁
  rw [hentries, hentries'] at htext
  rw [hroots, hroots'] at hdocument
  obtain ⟨hclassify, hdefinitions⟩ := hfail ["int"] "chan int" ["string"] unsupported rfl hothers hx
  have hout := ((hfiles Nat countedFiles (some "out/api.json") 0).1 hwrite).mp ⟨_, htext⟩
  obtain ⟨-, -, hrun, hkept⟩ := hfiles' Nat countedFiles (some "out/api.json") 0
  have hresult : result = (.error unsupported, 0) := hrun unsupported hdefinitions
  have herror : result.1 = .error unsupported := congrArg Prod.fst hresult
  have hchanges : result.2 = 0 := hkept unsupported result.2 (Prod.ext herror rfl) rfl
  exact ⟨htext, hprinted, ⟨defs, hdocument⟩, hwrite, hout, hx, hothers, hclassify, hdefinitions,
    herror, hchanges⟩

end Command

end TypeSchema
