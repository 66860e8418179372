import Playback.Text.Template

/-!
This module contains the class behind every Java program that reports its execution: it turns values
into records and follows arrays and the fields of objects.
-/

namespace Playback.Java

def supportTemplate : String :=
  "\n".intercalate
  ["",
   "class __PT_Helper \x7b",
   "    private static final int MAX_TEXT = __PT_MAX_TEXT__;",
   "    private static final int MAX_DEPTH = __PT_MAX_DEPTH__;",
   "    private static final int MAX_ITEMS = __PT_MAX_ITEMS__;",
   "",
   "    public static void trace(int line, Object... vars) \x7b",
   "        java.util.Set<Object> visited =",
   "            java.util.Collections.newSetFromMap(new java.util.IdentityHashMap<Object, Boolean>());",
   "        for (int i = 0; i + 1 < vars.length; i += 2) \x7b",
   "            System.out.println(\"VARBIND:\" + vars[i] + \":\" + serialize(vars[i + 1], 0, visited));",
   "        \x7d",
   "        System.out.println(\"LINEMARK:\" + line);",
   "    \x7d",
   "",
   "    static String id(Object obj) \x7b",
   "        return \"__PT_OBJ_PREFIX__\" + Integer.toHexString(System.identityHashCode(obj));",
   "    \x7d",
   "",
   "    static String quote(String s) \x7b",
   "        if (s.length() > MAX_TEXT) s = s.substring(0, MAX_TEXT) + \"...\";",
   "        StringBuilder sb = new StringBuilder(\"\\\"\");",
   "        for (char c : s.toCharArray()) \x7b",
   "            switch (c) \x7b",
   "                case '\"': sb.append(\"\\\\\\\"\"); break;",
   "                case '\\\\': sb.append(\"\\\\\\\\\"); break;",
   "                case '\\n': sb.append(\"\\\\n\"); break;",
   "                case '\\r': sb.append(\"\\\\r\"); break;",
   "                case '\\t': sb.append(\"\\\\t\"); break;",
   "                default:",
   "                    if (c < 0x20) sb.append(String.format(\"\\\\u%04x\", (int) c));",
   "                    else sb.append(c);",
   "            \x7d",
   "        \x7d",
   "        return sb.append('\"').toString();",
   "    \x7d",
   "",
   "    static boolean isPlatform(Class<?> c) \x7b",
   "        String n = c.getName();",
   "        return n.startsWith(\"java.\") || n.startsWith(\"javax.\") || n.startsWith(\"sun.\") || n.startsWith(\"jdk.\");",
   "    \x7d",
   "",
   "    static String serialize(Object obj, int depth, java.util.Set<Object> visited) \x7b",
   "        if (obj == null) return \"null\";",
   "        if (obj instanceof Double || obj instanceof Float) \x7b",
   "            double d = ((Number) obj).doubleValue();",
   "            return (Double.isNaN(d) || Double.isInfinite(d)) ? quote(String.valueOf(obj)) : String.valueOf(obj);",
   "        \x7d",
   "        if (obj instanceof Number || obj instanceof Boolean) return String.valueOf(obj);",
   "        if (obj instanceof Character || obj instanceof String || obj instanceof Enum) return quote(String.valueOf(obj));",
   "        if (depth > MAX_DEPTH) return \"\\\"...\\\"\";",
   "        String id = id(obj);",
   "        if (visited.add(obj)) dump(id, obj, depth, visited);",
   "        return \"\\\"\" + id + \"\\\"\";",
   "    \x7d",
   "",
   "    static void dump(String id, Object obj, int depth, java.util.Set<Object> visited) \x7b",
   "        Class<?> clazz = obj.getClass();",
   "        String type = clazz.isArray() ? \"Array\" : clazz.getSimpleName();",
   "        if (type.isEmpty()) type = clazz.getName();",
   "        StringBuilder json = new StringBuilder();",
   "        try \x7b",
   "            if (clazz.isArray()) \x7b",
   "                json.append(\"[\");",
   "                int len = java.lang.reflect.Array.getLength(obj);",
   "                for (int i = 0; i < len && i < MAX_ITEMS; i++) \x7b",
   "                    if (i > 0) json.append(\",\");",
   "                    json.append(serialize(java.lang.reflect.Array.get(obj, i), depth + 1, visited));",
   "                \x7d",
   "                json.append(\"]\");",
   "            \x7d else if (isPlatform(clazz)) \x7b",
   "                json.append(\"\x7b\\\"toString\\\":\").append(quote(String.valueOf(obj))).append(\"\x7d\");",
   "            \x7d else \x7b",
   "                json.append(\"\x7b\");",
   "                int count = 0;",
   "                for (Class<?> c = clazz; c != null && !isPlatform(c); c = c.getSuperclass()) \x7b",
   "                    for (java.lang.reflect.Field f : c.getDeclaredFields()) \x7b",
   "                        if (java.lang.reflect.Modifier.isStatic(f.getModifiers()) || f.isSynthetic()) continue;",
   "                        if (count >= MAX_ITEMS) break;",
   "                        f.setAccessible(true);",
   "                        if (count++ > 0) json.append(\",\");",
   "                        json.append(quote(f.getName())).append(\":\").append(serialize(f.get(obj), depth + 1, visited));",
   "                    \x7d",
   "                \x7d",
   "                json.append(\"\x7d\");",
   "            \x7d",
   "        \x7d catch (Exception e) \x7b",
   "            type = \"Object\";",
   "            json.setLength(0);",
   "            json.append(\"\x7b\x7d\");",
   "        \x7d",
   "        System.out.println(\"HEAPPUT:\" + id + \":\x7b\\\"type\\\":\" + quote(type) + \",\\\"value\\\":\" + json + \"\x7d\");",
   "    \x7d",
   "\x7d",
   ""]

def defaultMaxText : Int := 50

def maxDepth : Nat := 3

def maxItems : Nat := 20

/--
The text behind a program. Texts in its records are cut to the given length.
-/
def support (maxText : Int) : String :=
  Text.fill supportTemplate
    [("__PT_MAX_TEXT__", toString maxText), ("__PT_MAX_DEPTH__", toString maxDepth),
     ("__PT_MAX_ITEMS__", toString maxItems), ("__PT_OBJ_PREFIX__", "obj")]

end Playback.Java
