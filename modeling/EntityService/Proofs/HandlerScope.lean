import EntityService.Proofs.ArgumentReading
import EntityService.Proofs.EmbeddedLiterals
import EntityService.Proofs.ModuleNames

/-!
# The names in a handler

A handler is a function, so the names that it binds for itself stand before those of the top level.
If it called a class by such a name, it would not get the class.  This file reads from the lines of
each handler which names it binds and which it calls.

What a handler binds is the same for every entity.  The class of an entity is called in one handler
only, the one that lists rows, and this handler binds `request`, `rows` and `row`.  Nothing keeps an
entity from having one of these names.

## What is here

* `splitHeader`, `localNames`, `calledNames` — reading a handler: its parameters, the names that its
  body binds by an assignment or a loop, and the names that its body calls.
* `BodyNames`, `names_of_body` — reading it line by line.
* `names_listLines`, `names_createLines`, `names_updateLines`, `names_deleteLines`,
  `names_handlerLines` — what the handlers bind and call.
* `Captures`, `class_captured_iff` — the main statement.
* `capturedDocument_captures` — a document whose classes are captured.
-/

set_option autoImplicit false

namespace EntityService

open EntityService.Json EntityService.Text

namespace Source

/-! ## Reading a handler -/

/-- The tokens of a line. -/
def Line.tokens (line : Line) : List Token := Text.tokens line.text

/-- The header of a handler, which ends with the first line that ends in a colon, and its body. -/
def splitHeader : List Line → List Line × List Line
  | [] => ([], [])
  | line :: rest =>
    if line.tokens.getLast? = some (.mark ':') then ([line], rest)
    else (line :: (splitHeader rest).1, (splitHeader rest).2)

/-- The parameters that a header declares: the names right after a parenthesis or a comma. -/
def parameters : Bool → List Token → List String
  | _, [] => []
  | first, .word name :: rest => (if first then [name] else []) ++ parameters false rest
  | _, .literal _ :: rest => parameters false rest
  | _, .mark c :: rest => parameters (c = '(' || c = ',') rest

/-- The name that a line assigns to. -/
def assigned : List Token → List String
  | .word name :: .mark '=' :: rest => if rest.head? = some (.mark '=') then [] else [name]
  | _ => []

/-- The names that a line binds to one item after the other: those right after `for`. -/
def loopNames : Bool → List Token → List String
  | _, [] => []
  | bound, .word name :: rest => (if bound then [name] else []) ++ loopNames (name = "for") rest
  | _, .literal _ :: rest => loopNames false rest
  | _, .mark _ :: rest => loopNames false rest

/-- The names that a line calls: those right before a parenthesis, unless a point makes them members
of something else. -/
def called : Bool → List Token → List String
  | _, [] => []
  | inner, .word name :: rest =>
    (if inner = false ∧ rest.head? = some (.mark '(') then [name] else []) ++ called false rest
  | _, .literal _ :: rest => called false rest
  | _, .mark c :: rest => called (c = '.') rest

/-- The names that a line of a body binds. -/
def lineLocals (line : Line) : List String := assigned line.tokens ++ loopNames false line.tokens

/-- The names that a line of a body calls. -/
def lineCalls (line : Line) : List String := called false line.tokens

/-- The names that a handler binds for itself: its parameters, and what its body binds. -/
def localNames (handler : List Line) : List String :=
  parameters false ((splitHeader handler).1.flatMap Line.tokens)
    ++ (splitHeader handler).2.flatMap lineLocals

/-- The names that the body of a handler calls. -/
def calledNames (handler : List Line) : List String := (splitHeader handler).2.flatMap lineCalls

/-! ## The tokens of lines -/

theorem tokens_code (s : String) : (Line.code s).tokens = lex [] 0 s.toList := by
  rw [Line.tokens, text_code, Text.tokens]

/-- A line with one literal. -/
theorem tokens_quoted (before after : String) (hbefore : IsClosed before.toList)
    (hafter : Closes after.toList) (value : Text) :
    ∃ content, Line.tokens [.code before, .literal value, .code after]
      = Text.tokens before ++ .literal content :: Text.tokens after := by
  have hline : (Line.text [.code before, .literal value, .code after]).toList
      = before.toList ++ (literalChars value ++ after.toList) := by
    simp only [toList_text_cons, Part.text, literal, String.toList_ofList]
    simp [Line.text]
  rw [Line.tokens, Text.tokens, hline, lex_closed hbefore, lex_literal value (hafter.head?_ne value)]
  exact ⟨_, rfl⟩

/-! ## The tokens of arguments -/

/-- Tokens that neither call nor bind anything, whatever follows. -/
def Silent (ts : List Token) : Prop :=
  ∀ rest, called false (ts ++ rest) = called false rest ∧
    loopNames false (ts ++ rest) = loopNames false rest

theorem Silent.append {ts us : List Token} (h : Silent ts) (h' : Silent us) :
    Silent (ts ++ us) := by
  intro rest
  rw [List.append_assoc, (h _).1, (h _).2]
  exact h' rest

theorem silent_rowArgumentTokens (a : String × Int) : Silent (rowArgumentTokens a) := by
  intro rest
  rw [rowArgumentTokens, numberTokens]
  split <;> simp [called, loopNames]

/-- The tokens of all arguments together. -/
theorem silent_rowArguments (arguments : List (String × Int)) :
    Silent ([Token.mark ','].intercalate (arguments.map rowArgumentTokens)) := by
  induction arguments with
  | nil => exact fun _ => ⟨rfl, rfl⟩
  | cons a arguments ih =>
    cases arguments with
    | nil =>
      rw [List.map_singleton, List.intercalate_singleton]
      exact silent_rowArgumentTokens a
    | cons b arguments =>
      have hcomma : Silent [.mark ','] := fun _ => ⟨rfl, rfl⟩
      rw [List.map_cons, List.map_cons, List.intercalate_cons_cons]
      exact ((silent_rowArgumentTokens a).append hcomma).append ih

/-! ## The names of a handler -/

/-- The names that the handler for a verb binds. -/
def handlerLocals : Verb → List String
  | .list => ["request", "rows", "row"]
  | .create => ["body", "request"]
  | .update => ["id", "body", "request", "status"]
  | .delete => ["id", "request", "status"]

/-- The names that the handler for a verb calls: the class of an entity, to make models of rows, or
the class of errors. -/
def handlerCalls (entity : String) : Verb → List String
  | .list => [entity]
  | .create => []
  | .update | .delete => ["AppError"]

/-- What the lines of a body bind and call. -/
structure BodyNames (body : List Line) (locals calls : List String) : Prop where
  locals : body.flatMap lineLocals = locals
  calls : body.flatMap lineCalls = calls

namespace BodyNames

theorem append {body body' : List Line} {locals locals' calls calls' : List String}
    (h : BodyNames body locals calls) (h' : BodyNames body' locals' calls') :
    BodyNames (body ++ body') (locals ++ locals') (calls ++ calls') where
  locals := by rw [List.flatMap_append, h.locals, h'.locals]
  calls := by rw [List.flatMap_append, h.calls, h'.calls]

theorem line {line : Line} {ts : List Token} {locals calls : List String} (h : line.tokens = ts)
    (hlocals : assigned ts ++ loopNames false ts = locals) (hcalls : called false ts = calls) :
    BodyNames [line] locals calls := by
  subst h
  exact ⟨(List.flatMap_singleton ..).trans hlocals, (List.flatMap_singleton ..).trans hcalls⟩

theorem blank : BodyNames [Line.blank] [] [] := ⟨rfl, rfl⟩

theorem silent {body : List Line} (h : ∀ line ∈ body, BodyNames [line] [] []) :
    BodyNames body [] [] where
  locals := List.flatMap_eq_nil_iff.2 fun line hline => by
    simpa using (h line hline).locals
  calls := List.flatMap_eq_nil_iff.2 fun line hline => by
    simpa using (h line hline).calls

end BodyNames

theorem splitHeader_append {header body : List Line} {last : Line}
    (hheader : ∀ line ∈ header, line.tokens.getLast? ≠ some (.mark ':'))
    (hlast : last.tokens.getLast? = some (.mark ':')) :
    splitHeader (header ++ last :: body) = (header ++ [last], body) := by
  induction header with
  | nil => rw [List.nil_append, splitHeader, if_pos hlast, List.nil_append]
  | cons line header ih =>
    rw [List.forall_mem_cons] at hheader
    rw [List.cons_append, splitHeader, if_neg hheader.1, ih hheader.2]
    rfl

/-- The names of a handler, from those of its header and its body. -/
theorem names_of_body (header : List Line) {body : List Line} {last : Line}
    (declared : List String) {locals calls : List String}
    (hheader : ∀ line ∈ header, line.tokens.getLast? ≠ some (.mark ':'))
    (hlast : last.tokens.getLast? = some (.mark ':'))
    (hdeclared : parameters false (header.flatMap Line.tokens ++ last.tokens) = declared)
    (h : BodyNames body locals calls) :
    localNames (header ++ last :: body) = declared ++ locals ∧
      calledNames (header ++ last :: body) = calls := by
  rw [localNames, calledNames, splitHeader_append hheader hlast, h.locals, h.calls, ← hdeclared]
  simp

theorem blank_tokens : Line.blank.tokens = [] := rfl

/-! ## Lines of bodies -/

/-- A line of fixed text. -/
theorem names_code (text : String) {locals calls : List String}
    (hlocals : assigned (Text.tokens text) ++ loopNames false (Text.tokens text) = locals)
    (hcalls : called false (Text.tokens text) = calls) :
    BodyNames [Line.code text] locals calls :=
  .line (tokens_code text) hlocals hcalls

theorem names_statement (statement : Sql.Statement) :
    BodyNames [[.code "        ", .literal statement.text, .code ","]] [] [] := by
  obtain ⟨content, htokens⟩ := tokens_quoted "        " "," (by decide) ⟨',', by decide, rfl⟩
    statement.text
  exact .line htokens rfl rfl

theorem isName_bodyName : IsName bodyName := ⟨by decide, by decide⟩

theorem isName_identifierName : IsName identifierName := ⟨by decide, by decide⟩

theorem names_argumentLines {r : Resource} (h : r.IsNamed) {arguments : List Argument}
    (harguments : arguments ⊆ r.bindArguments ++ [.identifier]) :
    BodyNames (argumentLines arguments) [] [] := by
  refine .silent (List.forall_mem_map.2 fun a ha => ?_)
  cases a with
  | identifier =>
    have htokens : (Line.code ("        " ++ Argument.identifier.text ++ ",")).tokens
        = Text.tokens "        " ++ .word identifierName :: Text.tokens "," := by
      rw [tokens_code]
      simp only [Argument.text, String.toList_append, List.append_assoc]
      rw [lex_text_name _ (by decide) isName_identifierName (endsName_of_head (c := ',') rfl rfl)]
      rfl
    exact .line htokens rfl rfl
  | member name =>
    have hname : IsName name := by
      have hmem := harguments ha
      simp only [Resource.bindArguments, List.mem_append, List.mem_map, Argument.member.injEq,
        List.mem_singleton, reduceCtorEq, or_false] at hmem
      obtain ⟨m, hm, rfl⟩ := hmem
      exact h.members m hm
    have htokens : (Line.code ("        " ++ (Argument.member name).text ++ ",")).tokens
        = Text.tokens "        " ++ .word bodyName :: (Text.tokens "." ++ .word name
          :: Text.tokens ",") := by
      rw [tokens_code]
      simp only [Argument.text, String.toList_append, List.append_assoc]
      rw [lex_text_name _ (by decide) isName_bodyName (endsName_of_head (c := '.') rfl rfl),
        lex_text_name _ (by decide) hname (endsName_of_head (c := ',') rfl rfl)]
      rfl
    exact .line htokens rfl rfl

theorem names_missingLines {r : Resource} (h : r.IsNamed) {status : String}
    (hstatus : IsName status) : BodyNames (missingLines r status) [] ["AppError"] := by
  have hif : (Line.code ("    if status == \"" ++ status ++ " 0\":")).tokens
      = Text.tokens "    if status == " ++ .literal (status.toList ++ " 0".toList)
        :: Text.tokens ":" := by
    have hopen : "    if status == \"".toList = "    if status == ".toList ++ ['"'] := rfl
    have hclose : " 0\":".toList = " 0".toList ++ '"' :: ":".toList := rfl
    rw [tokens_code, String.toList_append, String.toList_append, hopen, hclose, List.append_assoc,
      List.append_assoc, lex_text _ (by decide)]
    rw [List.singleton_append, lex_named_literal hstatus (by decide)]
    rfl
  have hraise : (Line.code ("        raise AppError(f\"" ++ r.entity.name ++ " \x7b"
      ++ identifierName ++ "\x7d not found\", status_code=404)")).tokens
      = Text.tokens "        raise AppError(" ++ .word "f"
        :: .literal (r.entity.name.toList ++ " \x7bid\x7d not found".toList)
        :: Text.tokens ", status_code=404)" := by
    have hopen : "        raise AppError(f\"".toList
        = "        raise AppError(".toList ++ ("f".toList ++ ['"']) := rfl
    have hclose : " \x7b".toList ++ (identifierName.toList
        ++ "\x7d not found\", status_code=404)".toList)
        = " \x7bid\x7d not found".toList ++ '"' :: ", status_code=404)".toList := rfl
    have hprefix : IsName "f" := ⟨by decide, by decide⟩
    rw [tokens_code]
    simp only [String.toList_append, List.append_assoc]
    rw [hopen, hclose, List.append_assoc, List.append_assoc,
      lex_text_name _ (by decide) hprefix (endsName_of_head (c := '"') rfl rfl),
      List.singleton_append, lex_named_literal h.entity (by decide)]
    rfl
  exact (BodyNames.line hif rfl rfl).append (.line hraise rfl rfl)

/-- The lines that return what was sent, and what was removed, hold nothing from a schema. -/
theorem names_returnBody : BodyNames [Line.code ("    return " ++ bodyName)] [] [] := by
  have htokens : (Line.code ("    return " ++ bodyName)).tokens
      = lex [] 0 ("    return ".toList ++ bodyName.toList) := by
    rw [tokens_code, String.toList_append]
  exact .line htokens (by decide +kernel) (by decide +kernel)

theorem names_returnIdentifier :
    BodyNames [Line.code ("    return \x7b\"deleted\": " ++ identifierName ++ "\x7d")] [] [] := by
  have htokens : (Line.code ("    return \x7b\"deleted\": " ++ identifierName ++ "\x7d")).tokens
      = lex [] 0 ("    return \x7b\"deleted\": ".toList ++ identifierName.toList
        ++ "\x7d".toList) := by
    rw [tokens_code, String.toList_append, String.toList_append]
  exact .line htokens (by decide +kernel) (by decide +kernel)

theorem isUnquoted_type (scalar : Scalar) : IsUnquoted scalar.annotation.toList := by
  cases scalar <;> decide

/-- The type of an identifier declares no parameter. -/
theorem parameters_type (scalar : Scalar) (rest : List Token) :
    parameters false (Text.tokens scalar.annotation ++ rest) = parameters false rest := by
  cases scalar <;> rfl

/-- A row identifier is declared with its type. -/
theorem lex_identifierDeclaration (r : Resource) (rest : List Char) (hrest : EndsName rest) :
    ∃ scalar : Scalar, lex [] 0 ((identifierDeclaration r).toList ++ rest)
      = .word identifierName :: (Text.tokens ": " ++ (Text.tokens scalar.annotation
        ++ lex [] 0 rest)) := by
  obtain ⟨scalar, htype⟩ : ∃ scalar : Scalar, r.entity.identifierType = scalar.annotation := by
    rw [Entity.identifierType]
    split
    · exact ⟨_, rfl⟩
    · exact ⟨_, rfl⟩
  refine ⟨scalar, ?_⟩
  simp only [identifierDeclaration, htype, String.toList_append, List.append_assoc]
  rw [lex_name isName_identifierName (endsName_of_head (c := ':') rfl rfl),
    lex_text ": " (by decide), lex_append (isUnquoted_type scalar) hrest]
  rfl

/-- The line of an update that declares its parameters. -/
theorem tokens_updateParameters {r : Resource} (h : r.IsNamed) :
    ∃ scalar : Scalar, (Line.code ("    " ++ identifierDeclaration r ++ ", " ++ bodyDeclaration r
      ++ ", request: Request")).tokens
      = Text.tokens "    " ++ .word identifierName :: (Text.tokens ": "
        ++ (Text.tokens scalar.annotation ++ (Text.tokens ", " ++ .word bodyName
        :: (Text.tokens ": " ++ .word r.entity.name :: Text.tokens ", request: Request")))) := by
  obtain ⟨scalar, hidentifier⟩ := lex_identifierDeclaration r
    (", ".toList ++ (bodyName.toList ++ (": ".toList ++ (r.entity.name.toList
      ++ ", request: Request".toList)))) (endsName_of_head (c := ',') rfl rfl)
  refine ⟨scalar, ?_⟩
  rw [tokens_code]
  simp only [bodyDeclaration, String.toList_append, List.append_assoc]
  rw [lex_text "    " (by decide), hidentifier,
    lex_text_name _ (by decide) isName_bodyName (endsName_of_head (c := ':') rfl rfl),
    lex_text_name _ (by decide) h.entity (endsName_of_head (c := ',') rfl rfl)]
  rfl

section Handlers

variable {r : Resource} (h : r.IsNamed) {handler : String} (hh : IsName handler)
  (statement : Sql.Statement)

include h hh

theorem names_listLines :
    localNames (listLines r handler statement) = handlerLocals .list ∧
      calledNames (listLines r handler statement) = handlerCalls r.entity.name .list := by
  have hheader : (Line.code ("async def " ++ handler ++ "(request: Request) -> list["
      ++ r.entity.name ++ "]:")).tokens
      = Text.tokens "async def " ++ .word handler :: (Text.tokens "(request: Request) -> list["
        ++ .word r.entity.name :: Text.tokens "]:") := by
    rw [tokens_code]
    simp only [String.toList_append, List.append_assoc]
    rw [lex_text_name _ (by decide) hh (endsName_of_head (c := '(') rfl rfl),
      lex_text_name _ (by decide) h.entity (endsName_of_head (c := ']') rfl rfl)]
    rfl
  have hnames : ∀ a ∈ r.rowArguments, IsName a.1 := by
    intro a ha
    obtain ⟨m, hm, rfl⟩ := List.mem_map.1 ha
    exact h.members m hm
  have hlex := lex_rowArguments hnames ") for row in rows]".toList
  have hreturn : (Line.code ("    return [" ++ r.entity.name ++ "(" ++ r.rowArgumentsText
      ++ ") for row in rows]")).tokens
      = Text.tokens "    return [" ++ .word r.entity.name :: .mark '(' ::
        ([Token.mark ','].intercalate (r.rowArguments.map rowArgumentTokens)
          ++ Text.tokens ") for row in rows]") := by
    rw [tokens_code]
    simp only [String.toList_append, List.append_assoc]
    rw [lex_text_name _ (by decide) h.entity (endsName_of_head (c := '(') rfl rfl),
      lex_text "(" (by decide), Resource.rowArgumentsText, hlex]
    rfl
  obtain ⟨content, hrows⟩ := tokens_quoted "    rows = await request.app.state.pool.fetch(" ")"
    (by decide) ⟨')', by decide, rfl⟩ statement.text
  have hfetch : BodyNames [[.code "    rows = await request.app.state.pool.fetch(",
      .literal statement.text, .code ")"]] ["rows"] [] := .line hrows rfl rfl
  have hmodels : BodyNames [Line.code ("    return [" ++ r.entity.name ++ "("
      ++ r.rowArgumentsText ++ ") for row in rows]")] ["row"] [r.entity.name] := by
    obtain ⟨hcalls, hloop⟩ :=
      silent_rowArguments r.rowArguments (Text.tokens ") for row in rows]")
    exact .line hreturn hloop (congrArg (r.entity.name :: ·) hcalls)
  exact names_of_body [Line.blank] ["request"] (by simp [blank_tokens]) (by rw [hheader]; rfl)
    (by rw [hheader]; rfl) (hfetch.append (hmodels.append .blank))

theorem names_createLines :
    localNames (createLines r handler statement) = handlerLocals .create ∧
      calledNames (createLines r handler statement) = handlerCalls r.entity.name .create := by
  have hheader : (Line.code ("async def " ++ handler ++ "(" ++ bodyDeclaration r
      ++ ", request: Request) -> " ++ r.entity.name ++ ":")).tokens
      = Text.tokens "async def " ++ .word handler :: (Text.tokens "(" ++ .word bodyName
        :: (Text.tokens ": " ++ .word r.entity.name :: (Text.tokens ", request: Request) -> "
        ++ .word r.entity.name :: Text.tokens ":"))) := by
    rw [tokens_code]
    simp only [bodyDeclaration, String.toList_append, List.append_assoc]
    rw [lex_text_name _ (by decide) hh (endsName_of_head (c := '(') rfl rfl),
      lex_text_name _ (by decide) isName_bodyName (endsName_of_head (c := ':') rfl rfl),
      lex_text_name _ (by decide) h.entity (endsName_of_head (c := ',') rfl rfl),
      lex_text_name _ (by decide) h.entity (endsName_of_head (c := ':') rfl rfl)]
    rfl
  have harguments : BodyNames (argumentLines r.bindArguments) [] [] :=
    names_argumentLines h (List.subset_append_left _ _)
  have hexecute : BodyNames [Line.code "    await request.app.state.pool.execute("] [] [] :=
    names_code _ rfl rfl
  have hclose : BodyNames [Line.code "    )"] [] [] := names_code _ rfl rfl
  exact names_of_body [Line.blank] ["body", "request"] (by simp [blank_tokens])
    (by rw [hheader]; rfl) (by rw [hheader]; rfl)
    ((hexecute.append (names_statement statement)).append
      (harguments.append (hclose.append (names_returnBody.append .blank))))

theorem names_updateLines :
    localNames (updateLines r handler statement) = handlerLocals .update ∧
      calledNames (updateLines r handler statement) = handlerCalls r.entity.name .update := by
  have hdef : (Line.code ("async def " ++ handler ++ "(")).tokens
      = Text.tokens "async def " ++ .word handler :: Text.tokens "(" := by
    rw [tokens_code]
    simp only [String.toList_append, List.append_assoc]
    rw [lex_text_name _ (by decide) hh (endsName_of_head (c := '(') rfl rfl)]
    rfl
  obtain ⟨scalar, hparameters⟩ := tokens_updateParameters h
  have hclose : (Line.code (") -> " ++ r.entity.name ++ ":")).tokens
      = Text.tokens ") -> " ++ .word r.entity.name :: Text.tokens ":" := by
    rw [tokens_code]
    simp only [String.toList_append, List.append_assoc]
    rw [lex_text_name _ (by decide) h.entity (endsName_of_head (c := ':') rfl rfl)]
    rfl
  have harguments : BodyNames (argumentLines r.updateArguments) [] [] :=
    names_argumentLines h r.updateArguments_subset
  have hexecute : BodyNames [Line.code "    status = await request.app.state.pool.execute("]
      ["status"] [] := names_code _ rfl rfl
  have hend : BodyNames [Line.code "    )"] [] [] := names_code _ rfl rfl
  have hmissing : BodyNames (missingLines r "UPDATE") [] ["AppError"] :=
    names_missingLines h ⟨by decide, by decide⟩
  have hbody := ((((hexecute.append (names_statement statement)).append harguments).append
    hend).append hmissing).append (names_returnBody.append .blank)
  refine names_of_body [Line.blank, Line.code ("async def " ++ handler ++ "("),
      Line.code ("    " ++ identifierDeclaration r ++ ", " ++ bodyDeclaration r
        ++ ", request: Request")] ["id", "body", "request"] ?_ (by rw [hclose]; rfl) ?_ hbody
  · have hopen : (Text.tokens "(").getLast? = some (.mark '(') := rfl
    have htype : (Text.tokens ", request: Request").getLast? = some (.word "Request") := rfl
    simp only [List.forall_mem_cons, blank_tokens, hdef, hparameters, List.getLast?_append,
      List.getLast?_cons, hopen, htype]
    simp
  · simp only [List.flatMap_cons, List.flatMap_nil, blank_tokens, hdef, hparameters, hclose,
      List.append_assoc, List.cons_append, List.nil_append]
    exact congrArg (identifierName :: ·) (parameters_type scalar _)

theorem names_deleteLines :
    localNames (deleteLines r handler statement) = handlerLocals .delete ∧
      calledNames (deleteLines r handler statement) = handlerCalls r.entity.name .delete := by
  obtain ⟨scalar, hidentifier⟩ := lex_identifierDeclaration r
    ", request: Request) -> dict:".toList (endsName_of_head (c := ',') rfl rfl)
  have hheader : (Line.code ("async def " ++ handler ++ "(" ++ identifierDeclaration r
      ++ ", request: Request) -> dict:")).tokens
      = Text.tokens "async def " ++ .word handler :: (Text.tokens "(" ++ .word identifierName
        :: (Text.tokens ": " ++ (Text.tokens scalar.annotation
        ++ Text.tokens ", request: Request) -> dict:"))) := by
    rw [tokens_code]
    simp only [String.toList_append, List.append_assoc]
    rw [lex_text_name _ (by decide) hh (endsName_of_head (c := '(') rfl rfl),
      lex_text "(" (by decide), hidentifier]
    rfl
  have hlast : (Text.tokens ", request: Request) -> dict:").getLast? = some (.mark ':') := rfl
  have hexecute : BodyNames [[.code "    status = await request.app.state.pool.execute(",
      .literal statement.text, .code (", " ++ identifierName ++ ")")]] ["status"] [] := by
    have hlist : (", " ++ identifierName ++ ")").toList
        = ", ".toList ++ identifierName.toList ++ ")".toList := by
      rw [String.toList_append, String.toList_append]
    obtain ⟨content, htokens⟩ := tokens_quoted "    status = await request.app.state.pool.execute("
      (", " ++ identifierName ++ ")") (by decide) (by rw [hlist]; exact ⟨',', by decide, rfl⟩)
      statement.text
    rw [Text.tokens.eq_1 (", " ++ _ ++ _), hlist] at htokens
    exact .line htokens rfl rfl
  have hmissing : BodyNames (missingLines r "DELETE") [] ["AppError"] :=
    names_missingLines h ⟨by decide, by decide⟩
  refine names_of_body [Line.blank] ["id", "request"] (by simp [blank_tokens]) ?_ ?_
    (hexecute.append (hmissing.append (names_returnIdentifier.append .blank)))
  · rw [hheader]
    simp only [List.getLast?_append, List.getLast?_cons, hlast]
    rfl
  · rw [hheader]
    exact congrArg (identifierName :: ·) (parameters_type scalar _)

theorem names_verbLines (v : Verb) :
    localNames (verbLines r handler statement v) = handlerLocals v ∧
      calledNames (verbLines r handler statement v) = handlerCalls r.entity.name v := by
  cases v with
  | list => exact names_listLines h hh statement
  | create => exact names_createLines h hh statement
  | update => exact names_updateLines h hh statement
  | delete => exact names_deleteLines h hh statement

end Handlers

/-- **The names of a handler.**  It binds the same names for every entity that was accepted. -/
theorem names_handlerLines {e : Entity} (h : Names.classNameFault? e.name = none) (schema : Text)
    {v : Verb} (hv : v ∈ e.verbs) :
    localNames (handlerLines (e.resource schema) v) = handlerLocals v ∧
      calledNames (handlerLines (e.resource schema) v) = handlerCalls e.name v := by
  obtain ⟨statement, hstatement⟩ := Option.isSome_iff_exists.1 ((e.statement?_isSome schema v).2 hv)
  rw [handlerLines, e.handler?_eq, if_pos hv, hstatement]
  exact names_verbLines (e.isNamed h schema) (e.isName_handlerName h v) statement v

/-! ## Capture -/

/-- A handler calls something by a name that it binds for itself.  Two names are the same if they
have the same normal form. -/
def Captures (normal : String → String) (handler : List Line) (name : String) : Prop :=
  normal name ∈ (calledNames handler).map normal ∧ normal name ∈ (localNames handler).map normal

theorem map_normal {normal : String → String}
    (h : ∀ name : String, (∀ c ∈ name.toList, c.toNat < 0x80) → normal name = name) (v : Verb) :
    (handlerLocals v).map normal = handlerLocals v := by
  have hascii : ∀ name ∈ handlerLocals v, ∀ c ∈ name.toList, c.toNat < 0x80 := by
    cases v <;> decide
  exact (List.map_congr_left fun name hname => h name (hascii name hname)).trans (List.map_id' _)

end Source

open Source

/-- **When a class is captured.**  The name of an accepted entity names its class at the top level,
and a handler that calls it means that class, except in one place: the handler that lists rows binds
`request`, `rows` and `row` for itself, and an entity of such a name is accepted.  How names are
brought to normal form is left open, but for names in ASCII, which are in normal form. -/
theorem class_captured_iff {v : Value} (hv : v.WellKeyed) {entities : List Entity}
    (h : (Schema.build v).result = .ok entities) (schema : Text) {normal : String → String}
    (hnormal : ∀ name : String, (∀ c ∈ name.toList, c.toNat < 0x80) → normal name = name)
    {e : Entity} (he : e ∈ entities) {verb : Verb} (hverb : verb ∈ e.verbs) :
    e.name ∈ (program (.ofEntities entities schema)).flatMap Line.bindings ∧
    localNames (handlerLines (e.resource schema) verb) = handlerLocals verb ∧
    calledNames (handlerLines (e.resource schema) verb) = handlerCalls e.name verb ∧
    (Captures normal (handlerLines (e.resource schema) verb) e.name ↔
      verb = .list ∧ normal e.name ∈ ["request", "rows", "row"]) := by
  have husable : ∀ e ∈ entities, Names.classNameFault? e.name = none :=
    fun e he => Schema.usable_of_build hv h he
  obtain ⟨hlocals, hcalls⟩ := names_handlerLines (husable e he) schema hverb
  refine ⟨?_, hlocals, hcalls, ?_⟩
  · have hbindings := bindings_program schema fun e he => e.hasWords (husable e he)
    rw [hbindings.mem_iff, List.mem_append, Service.ofEntities, List.flatMap_map, List.mem_flatMap]
    exact .inr ⟨e, he, List.mem_cons_self⟩
  · rw [Captures, hlocals, hcalls, map_normal hnormal]
    have herror : normal "AppError" = "AppError" := hnormal _ (by decide)
    -- The class of errors is called too, but no handler has a name like that for itself.
    have hlocal : ∀ verb : Verb, ¬ (normal e.name ∈ ["AppError"].map normal ∧
        normal e.name ∈ handlerLocals verb) := by
      rintro verb ⟨hname, hlocal⟩
      rw [List.map_singleton, List.mem_singleton, herror] at hname
      rw [hname] at hlocal
      revert hlocal
      cases verb <;> decide
    cases verb with
    | list => simp [handlerCalls, handlerLocals]
    | create => simp [handlerCalls]
    | update => simpa [handlerCalls] using hlocal .update
    | delete => simpa [handlerCalls] using hlocal .delete

/-- A document with the names that the handler that lists rows binds for itself. -/
def capturedDocument : Value :=
  .object [("request", .object []), ("rows", .object []), ("row", .object [])]

def capturedEntities : List Entity := [⟨"request", []⟩, ⟨"rows", []⟩, ⟨"row", []⟩]

theorem build_capturedDocument : (Schema.build capturedDocument).result = .ok capturedEntities := by
  rfl

theorem class_captured_capturedDocument :
    capturedDocument.WellKeyed ∧ (Schema.build capturedDocument).result = .ok capturedEntities ∧
    (∀ name : String, (∀ c ∈ name.toList, c.toNat < 0x80) → id name = name) ∧
    ∀ e ∈ capturedEntities,
      Captures id (handlerLines (e.resource "public") .list) e.name ∧
        ¬ Captures id (handlerLines (e.resource "public") .create) e.name := by
  have hv : capturedDocument.WellKeyed := by decide
  have hbuild := build_capturedDocument
  have hid : ∀ name : String, (∀ c ∈ name.toList, c.toNat < 0x80) → id name = name :=
    fun _ _ => rfl
  refine ⟨hv, hbuild, hid, fun e he => ?_⟩
  have hverbs : ∀ e ∈ capturedEntities, .list ∈ e.verbs ∧ .create ∈ e.verbs ∧
      e.name ∈ ["request", "rows", "row"] := by
    decide
  obtain ⟨hlist, hcreate, hname⟩ := hverbs e he
  obtain ⟨-, -, -, hcaptured⟩ := class_captured_iff hv hbuild "public" hid he hlist
  obtain ⟨-, -, -, hfree⟩ := class_captured_iff hv hbuild "public" hid he hcreate
  exact ⟨hcaptured.2 ⟨rfl, hname⟩, fun h => absurd (hfree.1 h).1 (by decide)⟩

/-- It is not so that handlers never capture the classes of accepted entities. -/
theorem capturedDocument_captures :
    ¬ ∀ (v : Value) (entities : List Entity), v.WellKeyed → (Schema.build v).result = .ok entities →
      ∀ e ∈ entities, ∀ verb ∈ e.verbs,
        ¬ Captures id (handlerLines (e.resource "public") verb) e.name := by
  intro hclaim
  have hv : capturedDocument.WellKeyed := by decide
  have hbuild := build_capturedDocument
  have hrow : (⟨"row", []⟩ : Entity) ∈ capturedEntities := by decide
  have hlist : Verb.list ∈ (⟨"row", []⟩ : Entity).verbs := by decide
  obtain ⟨hlocals, hcalls⟩ := names_handlerLines (e := ⟨"row", []⟩) (by rfl) "public" hlist
  refine hclaim _ _ hv hbuild _ hrow _ hlist ?_
  rw [Captures, hlocals, hcalls]
  decide

end EntityService
