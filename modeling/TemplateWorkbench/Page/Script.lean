import TemplateWorkbench.Number.Integer

/-!
# The script

The script of the page resizes the panes, switches between the views, and collects what is edited in
the browser.  It is written by lines; what stands between braces is indented.
-/

namespace TemplateWorkbench.Page

/-- Lines indented by one level; empty ones stay empty. -/
def indent (lines : List String) : List String :=
  lines.map fun line => if line.isEmpty then line else "  " ++ line

/-- Lines between braces, with what stands before and after the braces. -/
def braced (opening : String) (body : List String) (closing : String) : List String :=
  (opening ++ "\x7b") :: indent body ++ ["\x7d" ++ closing]

/-- The element of a name with the page's suffix. -/
def elementLine (uid holder name : String) : String :=
  s!"var {holder} = document.getElementById('tpg-{name}-{uid}');"

/-- The variables of the script. -/
def scriptVariables (uid : String) : List String := [
  s!"var container = document.getElementById('tpg-{uid}');",
  "if (!container) return;",
  s!"var state = typeof tpgState_{uid} !== 'undefined' ? tpgState_{uid} : " ++ "\x7b\x7d;",
  elementLine uid "editors" "editors",
  elementLine uid "contextPane" "context-pane",
  "var outputs = container.querySelectorAll('.tpg-output-pane');",
  elementLine uid "outputsBox" "outputs",
  elementLine uid "staleBanner" "stale",
  "var pendingChanges = \x7b\x7d;",
  ""]

/-- Reading and writing settings in the browser. -/
def settingsScript : List String :=
  ["// Persisted settings, namespaced like the Python SettingsStore"] ++
  braced "function loadSetting(key, fallback) "
    (braced "try "
      ["var raw = localStorage.getItem(state.namespace + ':' + key);",
        "if (raw === null) return fallback;",
        "var value = JSON.parse(raw);",
        "return typeof value === 'number' ? value : fallback;"]
      " catch (_) \x7b" ++ indent ["return fallback;"] ++ ["\x7d"]) "" ++
  braced "function saveSetting(key, value) "
    ["try \x7b localStorage.setItem(state.namespace + ':' + key, JSON.stringify(value)); \x7d " ++
      "catch (_) \x7b \x7d"] "" ++
  [""]

/-- Applying sizes to the panes. -/
def sizesScript : List String :=
  braced "function applyWidth(width) " ["contextPane.style.flexBasis = width + 'px';"] "" ++
  braced "function applyHeight(height) "
    ["outputs.forEach(function(el) \x7b el.style.height = height + 'px'; \x7d);",
      "editors.style.height = Math.max(state.total_height - height - 3, 0) + 'px';"] "" ++
  [""] ++
  braced "var sizes = "
    ["width: loadSetting(state.width_key, state.context_width),",
      "height: loadSetting(state.height_key, state.output_height)"] ";" ++
  ["applyWidth(sizes.width);", "applyHeight(sizes.height);", ""]

/-- Dragging a divider. -/
def dragScript (uid : String) : List String :=
  ["// Drag session: captured on mousedown, released on mouseup", "var session = null;", ""] ++
  braced "function handleDragMove(e) "
    ["if (!session) return;",
      "var coord = session.axis === 'x' ? e.pageX : e.pageY;",
      "var size = Math.max(session.sizeBase - (coord - session.mouseBase), state.min_size);",
      "sizes[session.target] = size;",
      "if (session.target === 'width') applyWidth(size); else applyHeight(size);",
      "saveSetting(session.key, size);"] "" ++
  [""] ++
  braced "function handleDragEnd() "
    ["session = null;",
      "document.removeEventListener('mousemove', handleDragMove);",
      "document.removeEventListener('mouseup', handleDragEnd);"] "" ++
  [""] ++
  braced "function startDrag(axis, target, key) "
    (braced "return function(e) "
      (["if (e.button !== 0) return;", "e.preventDefault();"] ++
        braced "session = "
          ["axis: axis,", "target: target,", "key: key,",
            "mouseBase: axis === 'x' ? e.pageX : e.pageY,", "sizeBase: sizes[target]"] ";" ++
        ["document.addEventListener('mousemove', handleDragMove);",
          "document.addEventListener('mouseup', handleDragEnd);"]) ";") "" ++
  ["",
    s!"document.getElementById('tpg-xdivider-{uid}')",
    "  .addEventListener('mousedown', startDrag('x', 'width', state.width_key));",
    s!"document.getElementById('tpg-ydivider-{uid}')",
    "  .addEventListener('mousedown', startDrag('y', 'height', state.height_key));",
    ""]

/-- Switching between views. -/
def viewScript : List String :=
  ["// View mode buttons switch between the pre-rendered views",
    "var viewButtons = container.querySelectorAll('.tpg-view-btn');"] ++
  braced "viewButtons.forEach(function(btn) "
    (braced "btn.addEventListener('click', function() "
      (["var view = btn.getAttribute('data-view');",
          "viewButtons.forEach(function(b) \x7b b.classList.toggle('tpg-active', b === btn); \x7d);"]
        ++
        braced "outputs.forEach(function(el) "
          ["el.style.display = el.getAttribute('data-pane') === view ? '' : 'none';"] ");" ++
        ["recordChange('view_mode', view);"]) ");") ");" ++
  [""]

/-- A listener of a field of the page, which records a change of the editor state. -/
def fieldScript (uid element event field : String) : List String :=
  braced
    s!"document.getElementById('tpg-{element}-{uid}').addEventListener('{event}', function(e) "
    [s!"recordChange('{field}', e.target.value);"] ");"

/-- Collecting what is edited. -/
def changesScript (uid : String) : List String :=
  ["// Edits are collected for Playground.apply_changes()"] ++
  braced "function recordChange(key, value) "
    (["pendingChanges[key] = value;",
        "container.setAttribute('data-changes', JSON.stringify(pendingChanges));",
        "container.setAttribute('data-has-changes', 'true');",
        "// View switches use pre-rendered panes; any other edit leaves them stale"] ++
      braced "if (key !== 'view_mode') "
        ["outputsBox.classList.add('tpg-is-stale');",
          "outputsBox.setAttribute('data-stale', 'true');",
          "staleBanner.style.display = '';"] "" ++
      braced "var event = new CustomEvent('tpg-changes', "
        ["detail: \x7b changes: pendingChanges, uid: '" ++ uid ++ "' \x7d"] ");" ++
      ["container.dispatchEvent(event);"]) "" ++
  [""] ++
  fieldScript uid "template" "input" "template" ++
  fieldScript uid "context" "input" "template_context" ++
  fieldScript uid "render-mode" "change" "render_mode" ++
  [""]

/-- Inserting spaces for a tab. -/
def tabScript (tabSize : Int) : List String :=
  ["// Tab inserts spaces instead of leaving the editor"] ++
  braced "container.querySelectorAll('.tpg-editor').forEach(function(el) "
    (braced "el.addEventListener('keydown', function(e) "
      ["if (e.key !== 'Tab') return;",
        "e.preventDefault();",
        s!"var pad = new Array({Number.integerText tabSize} + 1).join(' ');",
        "var start = el.selectionStart;",
        "el.value = el.value.slice(0, start) + pad + el.value.slice(el.selectionEnd);",
        "el.selectionStart = el.selectionEnd = start + pad.length;",
        "el.dispatchEvent(new Event('input'));"] ");") ");"

/-- The script of a page. -/
def script (uid : String) (tabSize : Int) : String :=
  let lines := braced "(function() "
    (scriptVariables uid ++ settingsScript ++ sizesScript ++ dragScript uid ++ viewScript ++
      changesScript uid ++ tabScript tabSize) ")();"
  "\n" ++ String.join (lines.map fun line => line ++ "\n")

end TemplateWorkbench.Page
