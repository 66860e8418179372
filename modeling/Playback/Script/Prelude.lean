import Playback.Fault
import Playback.Json.Writer
import Playback.Text.Lines
import Playback.Text.Template
import Playback.Trace.Step

/-!
This module contains the program that runs in front of a JavaScript program: it supplies output and
input, and the functions that capture steps.
-/

namespace Playback.Script

def preludeLines : List String :=
  ["",
   "var __steps = [];",
   "var __executed = \x7b\x7d;",
   "var __out = \"\";",
   "var __ids = new Map();",
   "var __nextId = 0;",
   "var __heap = \x7b\x7d;",
   "var __heapOrder = [];",
   "var __stopped = false;",
   "var __waiting = false;",
   "var __inputLines = __PT_INPUT__;",
   "var __inputPos = 0;",
   "var __MAX_STEPS = __PT_MAX_STEPS__;",
   "var __MAX_TEXT = __PT_MAX_TEXT__;",
   "var __MAX_ITEMS = __PT_MAX_ITEMS__;",
   "",
   "function __StepLimit() \x7b this.message = \"__PT_STEP_LIMIT__\"; \x7d",
   "function __InputExhausted() \x7b this.message = \"__PT_INPUT_EXHAUSTED__\"; \x7d",
   "",
   "function __id(v) \x7b",
   "    if (!__ids.has(v)) __ids.set(v, \"__PT_OBJ_PREFIX__\" + (__nextId++));",
   "    return __ids.get(v);",
   "\x7d",
   "",
   "function __ser(v) \x7b",
   "    if (v === null) return null;",
   "    if (v === undefined) return \"undefined\";",
   "    var t = typeof v;",
   "    if (t === \"boolean\") return v;",
   "    if (t === \"number\") return isFinite(v) ? v : String(v);",
   "    if (t === \"string\") return v.length > __MAX_TEXT ? v.substring(0, __MAX_TEXT) + \"...\" : v;",
   "    if (t === \"function\") return \"<function>\";",
   "    if (t === \"object\") return __id(v);",
   "    return String(v);",
   "\x7d",
   "",
   "function __children(v) \x7b",
   "    if (Array.isArray(v)) return v.slice(0, __MAX_ITEMS);",
   "    if (v instanceof Set) return Array.from(v).slice(0, __MAX_ITEMS);",
   "    if (v instanceof Map) return Array.from(v.values()).slice(0, __MAX_ITEMS);",
   "    return Object.keys(v).filter(function (k) \x7b return k.indexOf(\"__\") !== 0; \x7d)",
   "        .slice(0, __MAX_ITEMS).map(function (k) \x7b return v[k]; \x7d);",
   "\x7d",
   "",
   "function __put(v) \x7b",
   "    var id = __id(v);",
   "    var type, value;",
   "    if (Array.isArray(v)) \x7b",
   "        type = \"Array\";",
   "        value = v.slice(0, __MAX_ITEMS).map(__ser);",
   "    \x7d else if (v instanceof Set) \x7b",
   "        type = \"Set\";",
   "        value = Array.from(v).slice(0, __MAX_ITEMS).map(__ser);",
   "    \x7d else if (v instanceof Map) \x7b",
   "        type = \"Map\";",
   "        value = \x7b\x7d;",
   "        Array.from(v.entries()).slice(0, __MAX_ITEMS).forEach(function (e) \x7b value[String(e[0])] = __ser(e[1]); \x7d);",
   "    \x7d else \x7b",
   "        type = (v.constructor && v.constructor.name) || \"Object\";",
   "        value = \x7b\x7d;",
   "        Object.keys(v).filter(function (k) \x7b return k.indexOf(\"__\") !== 0; \x7d)",
   "            .slice(0, __MAX_ITEMS).forEach(function (k) \x7b value[k] = __ser(v[k]); \x7d);",
   "    \x7d",
   "    if (!(id in __heap)) __heapOrder.push(id);",
   "    __heap[id] = \x7b id: id, type: type, value: value \x7d;",
   "\x7d",
   "",
   "function __walk(v) \x7b",
   "    try \x7b",
   "        __put(v);",
   "        __children(v).forEach(function (c) \x7b",
   "            if (c !== null && typeof c === \"object\") __put(c);",
   "        \x7d);",
   "    \x7d catch (e) \x7b\x7d",
   "\x7d",
   "",
   "function __snapshot(line, vars) \x7b",
   "    return \x7b",
   "        currentLine: line,",
   "        executedLines: Object.keys(__executed).map(Number).sort(function (a, b) \x7b return a - b; \x7d),",
   "        frames: [\x7b name: \"__PT_GLOBAL_FRAME__\", variables: vars \x7d],",
   "        objects: JSON.parse(JSON.stringify(__heapOrder.map(function (id) \x7b return __heap[id]; \x7d))),",
   "        output: __out",
   "    \x7d;",
   "\x7d",
   "",
   "function __capture(line, getters) \x7b",
   "    if (__stopped || __steps.length >= __MAX_STEPS) \x7b",
   "        __stopped = true;",
   "        throw new __StepLimit();",
   "    \x7d",
   "    __executed[line] = true;",
   "    var vars = \x7b\x7d;",
   "    for (var name in getters) \x7b",
   "        var value;",
   "        try \x7b value = getters[name](); \x7d catch (e) \x7b continue; \x7d",
   "        if (value === undefined || typeof value === \"function\") continue;",
   "        vars[name] = __ser(value);",
   "        if (value !== null && typeof value === \"object\") __walk(value);",
   "    \x7d",
   "    __steps.push(__snapshot(line, vars));",
   "\x7d",
   "",
   "function __fmt(a) \x7b",
   "    if (typeof a === \"string\") return a;",
   "    if (a !== null && typeof a === \"object\") \x7b",
   "        try \x7b return JSON.stringify(a); \x7d catch (e) \x7b return String(a); \x7d",
   "    \x7d",
   "    return String(a);",
   "\x7d",
   "",
   "function __write() \x7b",
   "    __out += Array.prototype.map.call(arguments, __fmt).join(\" \") + \"\\n\";",
   "\x7d",
   "",
   "function __readline() \x7b",
   "    if (__inputPos >= __inputLines.length) \x7b",
   "        __waiting = true;",
   "        throw new __InputExhausted();",
   "    \x7d",
   "    return __inputLines[__inputPos++];",
   "\x7d",
   "",
   "globalThis.console = \x7b log: __write, info: __write, warn: __write, error: __write, debug: __write \x7d;",
   "globalThis.readline = __readline;",
   "globalThis.prompt = function (message) \x7b",
   "    if (message !== undefined) __out += String(message);",
   "    return __readline();",
   "\x7d;",
   "globalThis.eval = undefined;",
   "",
   "__steps.push(\x7b",
   "    currentLine: 1,",
   "    executedLines: [],",
   "    frames: [\x7b name: \"__PT_GLOBAL_FRAME__\", variables: \x7b\x7d \x7d],",
   "    objects: [],",
   "    output: \"\"",
   "\x7d);",
   ""]

def preludeTemplate : String :=
  "\n".intercalate preludeLines

def maxText : Nat := 100

def maxItems : Nat := 20

def preludeValues (maxSteps : Int) : List (String × String) :=
  [("__PT_MAX_STEPS__", toString maxSteps), ("__PT_MAX_TEXT__", toString maxText),
   ("__PT_MAX_ITEMS__", toString maxItems), ("__PT_STEP_LIMIT__", "Step limit exceeded"),
   ("__PT_INPUT_EXHAUSTED__", Fault.inputExhaustedMessage), ("__PT_OBJ_PREFIX__", "obj"),
   ("__PT_GLOBAL_FRAME__", globalFrameName)]

/--
The program that runs in front, given the input of the program and the greatest count of steps.
-/
def prelude (stdin : String) (maxSteps : Int) : String :=
  let input := Json.arr ((Text.closedLines stdin).map .str)
  Text.fill preludeTemplate (("__PT_INPUT__", input.write none) :: preludeValues maxSteps)

end Playback.Script
