import Accelerometer.Firmware
import Accelerometer.Proofs.Firmware.Code
import Accelerometer.Proofs.Text.LetterCase

/-!
# The code of firmware modules

The description and the author of a module stand in a comment. As long as they do not close it, they are
of no account to a compiler.

* `reads_join`: fragments are read as what they are meant for.
* `banner_isRead`: the comment with the description and the author.
* `source_isRead`, `header_isRead`: all fragments of a module.
* `texts_add_no_code`: the code of a module is that of its name alone.
* `closedComment_adds_code`: a description that closes its comment.
-/

namespace Accelerometer.Proofs.Firmware
open FirmwareModule

variable {c : Char} {name description author file brief : String} {module : FirmwareModule}

/-! ## Fragments -/

def fragmentCode : Fragment → List Char
  | .comment _ => [' ']
  | .code text => text.toList

def IsRead : Fragment → Prop
  | .comment body => StaysInComment body.toList
  | .code text => Reads text.toList text.toList

theorem text_reads {fragment : Fragment} (isRead : IsRead fragment) :
    Reads fragment.text.toList (fragmentCode fragment) := by
  cases fragment with
  | comment body =>
      have written : (Fragment.comment body).text.toList =
          '/' :: '*' :: (body.toList ++ ['*', '/']) := by
        simp [Fragment.text]
      rw [written]
      exact reads_comment isRead
  | code text => exact isRead

theorem join_toList (fragments : List Fragment) :
    (Fragment.join fragments).toList = fragments.flatMap fun fragment => fragment.text.toList := by
  rw [Fragment.join, String.toList_join, List.flatMap_map]

theorem reads_join {fragments : List Fragment} (areRead : ∀ fragment ∈ fragments, IsRead fragment) :
    Reads (Fragment.join fragments).toList (fragments.flatMap fragmentCode) := by
  rw [join_toList]
  induction fragments with
  | nil => exact reads_nil
  | cons fragment fragments ih =>
      rw [List.flatMap_cons, List.flatMap_cons]
      exact (text_reads (areRead fragment List.mem_cons_self)).append
        (ih fun other member => areRead other (List.mem_cons_of_mem _ member))

theorem plain_isRead {text : String} (plain : text.toList.all isPlain = true) :
    IsRead (.code text) :=
  reads_plain (List.all_eq_true.mp plain)

theorem quoting_isRead {text : String} {before quoted after : List Char}
    (written : text.toList = before ++ '"' :: (quoted ++ ['"']) ++ after)
    (left : before.all isPlain = true) (middle : quoted.all isInline = true)
    (right : after.all isPlain = true) : IsRead (.code text) := by
  rw [List.all_eq_true] at left middle right
  rw [IsRead, written]
  refine ((reads_plain left).append (reads_constant ?_)).append (reads_plain right)
  intro c member
  have inline := middle c member
  refine ⟨?_, ?_, ?_⟩ <;> rintro rfl <;> cases inline

theorem title_isRead {left : Nat} {title gap : String} (noSlash : '/' ∉ title.toList)
    (isRead : IsRead (.code gap)) :
    ∀ fragment ∈ Fragment.title left title gap, IsRead fragment := by
  rw [Fragment.title, List.forall_mem_cons, List.forall_mem_singleton]
  refine ⟨stays_without_slash ?_, isRead⟩
  simp [noSlash]

theorem emptySection_isRead {left : Nat} {title : String} (noSlash : '/' ∉ title.toList) :
    ∀ fragment ∈ Fragment.title left title "\n\n\n", IsRead fragment :=
  title_isRead noSlash (plain_isRead (by decide))

theorem signed_stays {before author : List Char} (beforeStays : StaysInComment before)
    (authorStays : StaysInComment author) : StaysInComment (before ++ ' ' :: (author ++ ['\n'])) :=
  (stays_append_cons (by decide)).mpr ⟨beforeStays, stays_append_feed authorStays⟩

theorem banner_isRead (noSlash : '/' ∉ file.toList) (briefStays : StaysInComment brief.toList)
    (authorStays : StaysInComment module.author.toList) : IsRead (module.banner file brief) := by
  have pieces : ("! \\file " ++ file ++ "\n*\n*  \\brief " ++ brief ++ ".\n*\n*\n*  \\author " ++
      module.author ++ "\n").toList =
      ("! \\file ".toList ++ file.toList ++ "\n*\n*  \\brief".toList) ++ ' ' ::
        (brief.toList ++ '.' ::
          ("\n*\n*\n*  \\author".toList ++ ' ' :: (module.author.toList ++ ['\n']))) := by
    simp
  rw [banner, IsRead, pieces, stays_append_cons (by decide), stays_append_cons (by decide)]
  refine ⟨stays_without_slash ?_, briefStays, signed_stays (stays_without_slash (by decide)) authorStays⟩
  simp [noSlash]

/-! ## Identifiers -/

theorem startsIdentifier_toUpper (starts : startsIdentifier c = true) :
    startsIdentifier c.toUpper = true := by
  rcases Bool.or_eq_true_iff.mp starts with letter | underscore
  · rw [startsIdentifier, Char.isAlpha_toUpper_eq_isAlpha, letter, Bool.true_or]
  · rw [beq_iff_eq.mp underscore]
    rfl

theorem continuesIdentifier_toUpper (continues : continuesIdentifier c = true) :
    continuesIdentifier c.toUpper = true := by
  by_cases lower : 'a'.val ≤ c.val ∧ c.val ≤ 'z'.val
  · have letter : c.isAlpha = true := by
      simp only [Char.isAlpha, Char.isLower, Bool.or_eq_true, Bool.and_eq_true, decide_eq_true_eq]
      exact .inr lower
    simp [continuesIdentifier, Char.isAlphanum, letter]
  · have same : c.toUpper = c := dif_neg lower
    rwa [same]

theorem slash_not_mem {text : List Char} (inline : text.all isInline = true) : '/' ∉ text :=
  fun member => nomatch List.all_eq_true.mp inline '/' member

theorem feed_not_mem {text : List Char} (inline : text.all isInline = true) : '\n' ∉ text :=
  fun member => nomatch List.all_eq_true.mp inline '\n' member

theorem isInline_of_continues (continues : continuesIdentifier c = true) : isInline c = true := by
  simp only [isInline, isPlain, Bool.and_eq_true, decide_eq_true_eq]
  refine ⟨⟨⟨⟨?_, ?_⟩, ?_⟩, ?_⟩, ?_⟩ <;> rintro rfl <;> cases continues

theorem continues_of_isIdentifier {text : List Char} (identifier : isIdentifier text = true) :
    ∀ c ∈ text, continuesIdentifier c = true := by
  cases text with
  | nil => cases identifier
  | cons first rest =>
      simp only [isIdentifier, Bool.and_eq_true, List.all_eq_true] at identifier
      obtain ⟨starts, continues⟩ := identifier
      rw [List.forall_mem_cons]
      refine ⟨?_, continues⟩
      simp only [startsIdentifier, continuesIdentifier, Char.isAlphanum, Bool.or_eq_true] at starts ⊢
      exact starts.imp_left .inl

theorem create_ok (created : FirmwareModule.create name description author = .ok module) :
    isIdentifier module.name.toList = true ∧
      ∀ description author, FirmwareModule.create name description author =
        .ok ⟨module.name, Text.trimmed description, Text.trimmed author⟩ := by
  unfold FirmwareModule.create at created ⊢
  dsimp only at created ⊢
  split at created
  · rename_i identifier
    obtain rfl := Except.ok.inj created
    rw [String.toList_ofList]
    exact ⟨identifier, fun _ _ => if_pos identifier⟩
  · cases created

/-! ## The fragments of a module -/

section
variable (named : isIdentifier module.name.toList = true)
include named

theorem name_inline : module.name.toList.all isInline = true := by
  rw [List.all_eq_true]
  intro c member
  exact isInline_of_continues (continues_of_isIdentifier named c member)

theorem headerName_inline : module.headerName.toList.all isInline = true := by
  rw [headerName, String.toList_append, List.all_append, name_inline named]
  rfl

theorem initializer_inline : module.initializer.toList.all isInline = true := by
  rw [initializer, String.toList_append, String.toList_ofList, List.all_append, Bool.and_eq_true,
    List.all_eq_true, List.forall_mem_map]
  refine ⟨?_, rfl⟩
  intro c member
  exact isInline_of_continues (continuesIdentifier_toUpper (continues_of_isIdentifier named c member))

theorem prototype_inline : module.prototype.toList.all isInline = true := by
  simp only [prototype, String.toList_append, List.all_append, initializer_inline named]
  rfl

theorem prototype_isRead {before after : String} (left : before.toList.all isPlain = true)
    (right : after.toList.all isPlain = true) :
    IsRead (.code (before ++ module.prototype ++ after)) := by
  have middle : module.prototype.toList.all isPlain = true := by
    rw [List.all_eq_true]
    intro c member
    have inline := List.all_eq_true.mp (prototype_inline named) c member
    exact (Bool.and_eq_true_iff.mp inline).1
  apply plain_isRead
  rw [String.toList_append, String.toList_append, List.all_append, List.all_append, left, middle, right]
  rfl

theorem include_isRead : IsRead (.code ("\n#include \"" ++ module.headerName ++ "\"\n\n")) := by
  have written : ("\n#include \"" ++ module.headerName ++ "\"\n\n").toList =
      "\n#include ".toList ++ '"' :: (module.headerName.toList ++ ['"']) ++ "\n\n".toList := by
    simp
  exact quoting_isRead written (by decide) (headerName_inline named) (by decide)

theorem explanation_isRead :
    IsRead (.comment ("*\n* \\name     " ++ module.initializer ++
      "\n* \\brief    Initialize the module variables and resources.\n*\n" ++
      "* \\param    None\n* \\retval   None\n")) := by
  apply stays_without_slash
  simp only [String.toList_append, List.mem_append, not_or]
  exact ⟨⟨⟨by decide, slash_not_mem (initializer_inline named)⟩, by decide⟩, by decide⟩

theorem source_isRead (descriptionStays : StaysInComment module.description.toList)
    (authorStays : StaysInComment module.author.toList) :
    ∀ fragment ∈ module.sourceFragments, IsRead fragment := by
  have noSlash : '/' ∉ module.sourceName.toList := by
    simp [sourceName, slash_not_mem (name_inline named)]
  simp only [sourceFragments, List.forall_mem_append, List.forall_mem_cons, List.not_mem_nil,
    false_imp_iff, implies_true, and_assoc, and_true]
  refine ⟨banner_isRead noSlash descriptionStays authorStays, plain_isRead (by decide), ?_⟩
  refine ⟨title_isRead (by decide) (include_isRead named), ?_⟩
  refine ⟨emptySection_isRead (by decide), emptySection_isRead (by decide),
    emptySection_isRead (by decide), emptySection_isRead (by decide), emptySection_isRead (by decide),
    emptySection_isRead (by decide), ?_⟩
  refine ⟨title_isRead (by decide) (plain_isRead (by decide)), explanation_isRead named, ?_⟩
  exact ⟨prototype_isRead named (by decide) (by decide), stays_without_slash (by decide),
    plain_isRead (by decide)⟩

theorem header_isRead (authorStays : StaysInComment module.author.toList) :
    ∀ fragment ∈ module.headerFragments, IsRead fragment := by
  have noSlash : '/' ∉ module.headerName.toList := slash_not_mem (headerName_inline named)
  have brief : StaysInComment
      (module.name ++ " module functions and variables declarations").toList := by
    apply stays_without_slash
    simp [slash_not_mem (name_inline named)]
  have guard : IsRead (.code "\n\n#pragma once\n\n#ifdef __cplusplus\nextern \"C\" \x7b\n#endif\n") :=
    quoting_isRead (show _ = "\n\n#pragma once\n\n#ifdef __cplusplus\nextern ".toList ++
      '"' :: (['C'] ++ ['"']) ++ " \x7b\n#endif\n".toList by decide) (by decide) (by decide) (by decide)
  have common : IsRead (.code "\n#include \"common.h\"\n\n") :=
    quoting_isRead (show _ = "\n#include ".toList ++ '"' :: ("common.h".toList ++ ['"']) ++
      "\n\n".toList by decide) (by decide) (by decide) (by decide)
  simp only [headerFragments, List.forall_mem_append, List.forall_mem_cons, List.not_mem_nil,
    false_imp_iff, implies_true, and_assoc, and_true]
  refine ⟨banner_isRead noSlash brief authorStays, guard, title_isRead (by decide) common, ?_⟩
  refine ⟨emptySection_isRead (by decide), emptySection_isRead (by decide),
    emptySection_isRead (by decide), emptySection_isRead (by decide), ?_⟩
  exact title_isRead (by decide) (prototype_isRead named (by decide) (by decide))

/-- But for the comment on top, a source file is read the same whatever its texts are. -/
theorem sourceBody_isRead : ∀ fragment ∈ module.sourceFragments.tail, IsRead fragment := by
  let bare : FirmwareModule := ⟨module.name, "", ""⟩
  have bareNamed : isIdentifier bare.name.toList = true := named
  have noText : StaysInComment "".toList := stays_without_slash (by decide)
  intro fragment member
  have same : module.sourceFragments.tail = bare.sourceFragments.tail := rfl
  rw [same] at member
  exact source_isRead bareNamed noText noText fragment (List.mem_of_mem_tail member)

theorem headerBody_isRead : ∀ fragment ∈ module.headerFragments.tail, IsRead fragment := by
  let bare : FirmwareModule := ⟨module.name, "", ""⟩
  have bareNamed : isIdentifier bare.name.toList = true := named
  have noText : StaysInComment "".toList := stays_without_slash (by decide)
  intro fragment member
  have same : module.headerFragments.tail = bare.headerFragments.tail := rfl
  rw [same] at member
  exact header_isRead bareNamed noText fragment (List.mem_of_mem_tail member)

theorem source_code (descriptionStays : StaysInComment module.description.toList)
    (authorStays : StaysInComment module.author.toList) :
    codeOf module.source.toList = module.sourceFragments.flatMap fragmentCode :=
  (reads_join (source_isRead named descriptionStays authorStays)).codeOf

theorem header_code (authorStays : StaysInComment module.author.toList) :
    codeOf module.header.toList = module.headerFragments.flatMap fragmentCode :=
  (reads_join (header_isRead named authorStays)).codeOf

end

/-! ## The lines of a module -/

def sourceLines (module : FirmwareModule) : List String :=
  ["#include \"" ++ module.headerName ++ "\"", module.prototype, "\x7b", "\x7d"]

def headerLines (module : FirmwareModule) : List String :=
  ["#pragma once", "#ifdef __cplusplus", "extern \"C\" \x7b", "#endif", "#include \"common.h\"",
    module.prototype ++ ";", "#ifdef __cplusplus", "\x7d", "#endif"]

theorem source_shown (named : isIdentifier module.name.toList = true) :
    shownLines (module.sourceFragments.flatMap fragmentCode) =
      (sourceLines module).map String.toList := by
  have code : module.sourceFragments.flatMap fragmentCode =
      " \n\n\n ".toList ++ '\n' :: (("#include \"" ++ module.headerName ++ "\"").toList ++ '\n' ::
        ("\n \n\n\n \n\n\n \n\n\n \n\n\n \n\n\n \n\n\n \n ".toList ++ '\n' ::
          (module.prototype.toList ++ '\n' :: "\x7b\n    \n\n\x7d\n".toList))) := by
    simp [sourceFragments, Fragment.title, banner, fragmentCode]
  have top : shownLines " \n\n\n ".toList = [] := by decide
  have sections :
      shownLines "\n \n\n\n \n\n\n \n\n\n \n\n\n \n\n\n \n\n\n \n ".toList = [] := by decide
  have body : shownLines "\x7b\n    \n\n\x7d\n".toList = ["\x7b".toList, "\x7d".toList] := by decide
  have included : shownLines ("#include \"" ++ module.headerName ++ "\"").toList =
      [("#include \"" ++ module.headerName ++ "\"").toList] := by
    apply shownLines_line
    · simp only [String.toList_append, List.mem_append, not_or]
      exact ⟨⟨by decide, feed_not_mem (headerName_inline named)⟩, by decide⟩
    · exact ⟨'#', by simp, rfl⟩
  have defined : shownLines module.prototype.toList = [module.prototype.toList] :=
    shownLines_line (feed_not_mem (prototype_inline named)) ⟨'v', by simp [prototype], rfl⟩
  rw [code, shownLines_append, shownLines_append, shownLines_append, shownLines_append, top, sections, body,
    included, defined]
  rfl

theorem header_shown (named : isIdentifier module.name.toList = true) :
    shownLines (module.headerFragments.flatMap fragmentCode) =
      (headerLines module).map String.toList := by
  have code : module.headerFragments.flatMap fragmentCode =
      (" \n\n#pragma once\n\n#ifdef __cplusplus\nextern \"C\" \x7b\n#endif\n \n" ++
        "#include \"common.h\"\n\n \n\n\n \n\n\n \n\n\n \n\n\n ").toList ++ '\n' ::
        ((module.prototype ++ ";").toList ++ '\n' ::
          "\n\n#ifdef __cplusplus\n\x7d\n#endif\n".toList) := by
    simp [headerFragments, Fragment.title, banner, fragmentCode]
  have top : shownLines (" \n\n#pragma once\n\n#ifdef __cplusplus\nextern \"C\" \x7b\n#endif\n \n" ++
      "#include \"common.h\"\n\n \n\n\n \n\n\n \n\n\n \n\n\n ").toList =
      ["#pragma once".toList, "#ifdef __cplusplus".toList, "extern \"C\" \x7b".toList, "#endif".toList,
        "#include \"common.h\"".toList] := by decide
  have bottom : shownLines "\n\n#ifdef __cplusplus\n\x7d\n#endif\n".toList =
      ["#ifdef __cplusplus".toList, "\x7d".toList, "#endif".toList] := by decide
  have declared : shownLines (module.prototype ++ ";").toList = [(module.prototype ++ ";").toList] := by
    apply shownLines_line
    · rw [String.toList_append, List.mem_append, not_or]
      exact ⟨feed_not_mem (prototype_inline named), by decide⟩
    · exact ⟨';', by simp, rfl⟩
  rw [code, shownLines_append, shownLines_append, top, bottom, declared]
  rfl

theorem fragments_of_name {module other : FirmwareModule} (same : module.name = other.name) :
    module.sourceFragments.flatMap fragmentCode = other.sourceFragments.flatMap fragmentCode ∧
      module.headerFragments.flatMap fragmentCode = other.headerFragments.flatMap fragmentCode := by
  obtain ⟨name, description, author⟩ := module
  obtain rfl : name = other.name := same
  exact ⟨rfl, rfl⟩

/-- Whatever its description and its author are, if they stay in the comment that they stand in, a module
gives a compiler the same as without them: the source file includes the header and defines the
initializer, the header declares it between its guards, and there is nothing else. -/
theorem texts_add_no_code (name description author : String) (module : FirmwareModule)
    (created : FirmwareModule.create name description author = .ok module)
    (authorStays : StaysInComment module.author.toList) :
    ∃ bare, FirmwareModule.create name "" "" = .ok bare ∧
      codeOf module.header.toList = codeOf bare.header.toList ∧
      (StaysInComment module.description.toList →
        codeOf module.source.toList = codeOf bare.source.toList) ∧
      shownLines (codeOf bare.source.toList) = (sourceLines bare).map String.toList ∧
      shownLines (codeOf bare.header.toList) = (headerLines bare).map String.toList := by
  obtain ⟨named, creates⟩ := create_ok created
  have empty : StaysInComment (Text.trimmed "").toList := stays_without_slash (by decide)
  generalize bareIs : FirmwareModule.mk module.name (Text.trimmed "") (Text.trimmed "") = bare
  have same : module.name = bare.name := by rw [← bareIs]
  have bareNamed : isIdentifier bare.name.toList = true := same ▸ named
  have noDescription : StaysInComment bare.description.toList := by rwa [← bareIs]
  have noAuthor : StaysInComment bare.author.toList := by rwa [← bareIs]
  obtain ⟨sameSource, sameHeader⟩ := fragments_of_name same
  refine ⟨bare, bareIs ▸ creates "" "", ?_, ?_, ?_, ?_⟩
  · rw [header_code named authorStays, header_code bareNamed noAuthor, sameHeader]
  · intro descriptionStays
    rw [source_code named descriptionStays authorStays,
      source_code bareNamed noDescription noAuthor, sameSource]
  · rw [source_code bareNamed noDescription noAuthor, source_shown bareNamed]
  · rw [header_code bareNamed noAuthor, header_shown bareNamed]

theorem markedTexts_add_no_code :
    let module : FirmwareModule :=
      ⟨"spi", "/* the \"bus\" * / \n// of two **", "*\\\nJane Doe\\"⟩
    FirmwareModule.create " SPI" "/* the \"bus\" * / \n// of two **" "*\\\nJane Doe\\" = .ok module ∧
      ∃ bare, FirmwareModule.create " SPI" "" "" = .ok bare ∧
        codeOf module.header.toList = codeOf bare.header.toList ∧
        codeOf module.source.toList = codeOf bare.source.toList ∧
        shownLines (codeOf bare.source.toList) = (sourceLines bare).map String.toList ∧
        shownLines (codeOf bare.header.toList) = (headerLines bare).map String.toList := by
  intro module
  have created : FirmwareModule.create " SPI" "/* the \"bus\" * / \n// of two **"
      "*\\\nJane Doe\\" = .ok module := by decide
  have authorStays : StaysInComment module.author.toList := by decide
  have descriptionStays : StaysInComment module.description.toList := by decide
  obtain ⟨bare, bareCreated, header, source, lines⟩ :=
    texts_add_no_code _ _ _ module created authorStays
  exact ⟨created, bare, bareCreated, header, source descriptionStays, lines⟩

/-! ## Descriptions that close their comment -/

/-- What a description has between the end of one comment and the start of another stands in the source
file as code. -/
theorem source_code_closed {injected : String} (named : isIdentifier module.name.toList = true)
    (authorStays : StaysInComment module.author.toList)
    (plain : injected.toList.all isPlain = true)
    (closing : module.description = "*/" ++ injected ++ "/*") :
    codeOf module.source.toList =
      ' ' :: injected.toList ++ module.sourceFragments.flatMap fragmentCode := by
  obtain ⟨others, whole⟩ : ∃ others,
      module.sourceFragments = module.banner module.sourceName module.description :: others :=
    ⟨_, rfl⟩
  let pieces : List Fragment :=
    [.comment ("! \\file " ++ module.sourceName ++ "\n*\n*  \\brief "), .code injected,
      .comment (".\n*\n*\n*  \\author " ++ module.author ++ "\n")]
  have cut : module.source.toList = (Fragment.join (pieces ++ others)).toList := by
    rw [source, whole, join_toList, join_toList, List.flatMap_append, List.flatMap_cons]
    simp [pieces, banner, Fragment.text, closing]
  have above : IsRead (.comment ("! \\file " ++ module.sourceName ++ "\n*\n*  \\brief ")) := by
    apply stays_without_slash
    simp [sourceName, slash_not_mem (name_inline named)]
  have below : IsRead (.comment (".\n*\n*\n*  \\author " ++ module.author ++ "\n")) := by
    have written : (".\n*\n*\n*  \\author " ++ module.author ++ "\n").toList =
        ".\n*\n*\n*  \\author".toList ++ ' ' :: (module.author.toList ++ ['\n']) := by simp
    rw [IsRead, written]
    exact signed_stays (stays_without_slash (by decide)) authorStays
  have othersRead : ∀ fragment ∈ others, IsRead fragment := by
    have read := sourceBody_isRead named
    rwa [whole, List.tail_cons] at read
  have areRead : ∀ fragment ∈ pieces ++ others, IsRead fragment := by
    simp only [List.forall_mem_append, pieces, List.forall_mem_cons, List.not_mem_nil, false_imp_iff,
      implies_true, and_true]
    exact ⟨⟨above, plain_isRead plain, below⟩, othersRead⟩
  rw [cut, (reads_join areRead).codeOf, List.flatMap_append, whole, List.flatMap_cons]
  simp [fragmentCode, banner]

/-- A description can put a declaration of its own into the source file. -/
theorem closedComment_adds_code :
    ¬∀ (name description author : String) (module bare : FirmwareModule),
      FirmwareModule.create name description author = .ok module →
        FirmwareModule.create name "" "" = .ok bare →
          codeOf module.source.toList = codeOf bare.source.toList ∧
            codeOf module.header.toList = codeOf bare.header.toList := by
  intro noninterference
  have created : FirmwareModule.create "spi" "*/ int injected; /*" "Jane Doe" =
      .ok ⟨"spi", "*/ int injected; /*", "Jane Doe"⟩ := by decide
  have bareCreated : FirmwareModule.create "spi" "" "" = .ok ⟨"spi", "", ""⟩ := by decide
  have same := (noninterference _ _ _ _ _ created bareCreated).1
  have empty : StaysInComment "".toList := stays_without_slash (by decide)
  let closing : FirmwareModule := ⟨"spi", "*/ int injected; /*", "Jane Doe"⟩
  have named : isIdentifier closing.name.toList = true := by decide
  have plain : " int injected; ".toList.all isPlain = true := by decide
  have injected : codeOf closing.source.toList = _ :=
    source_code_closed named (stays_without_slash (by decide)) plain (by decide)
  have sameName : closing.name = (FirmwareModule.mk "spi" "" "").name := rfl
  obtain ⟨sameFragments, -⟩ := fragments_of_name sameName
  rw [injected, source_code (by decide) empty empty, sameFragments] at same
  cases List.append_left_eq_self.mp same

end Accelerometer.Proofs.Firmware
