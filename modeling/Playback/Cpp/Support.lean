import Playback.Cpp.Dumper
import Playback.Text.Template

/-!
This module contains the text in front of every C and C++ program that reports its execution: it turns
values into records and follows containers, pointers and structures.
-/

namespace Playback.Cpp

def supportTemplate : String :=
  "\n".intercalate
  ["#include <cmath>",
   "#include <cstddef>",
   "#include <cstdint>",
   "#include <cstdio>",
   "#include <iostream>",
   "#include <iterator>",
   "#include <memory>",
   "#include <set>",
   "#include <sstream>",
   "#include <string>",
   "#include <type_traits>",
   "#include <utility>",
   "#include <vector>",
   "",
   "inline std::string __pt_quote(const std::string& s) \x7b",
   "    std::string text = s.size() > (std::size_t)__PT_MAX_TEXT__ ? s.substr(0, __PT_MAX_TEXT__) + \"...\" : s;",
   "    std::string out = \"\\\"\";",
   "    for (char c : text) \x7b",
   "        switch (c) \x7b",
   "            case '\"': out += \"\\\\\\\"\"; break;",
   "            case '\\\\': out += \"\\\\\\\\\"; break;",
   "            case '\\n': out += \"\\\\n\"; break;",
   "            case '\\r': out += \"\\\\r\"; break;",
   "            case '\\t': out += \"\\\\t\"; break;",
   "            default:",
   "                if (static_cast<unsigned char>(c) < 0x20) \x7b",
   "                    char buf[8];",
   "                    std::snprintf(buf, sizeof buf, \"\\\\u%04x\", static_cast<unsigned char>(c));",
   "                    out += buf;",
   "                \x7d else \x7b",
   "                    out += c;",
   "                \x7d",
   "        \x7d",
   "    \x7d",
   "    return out + \"\\\"\";",
   "\x7d",
   "",
   "inline std::string __pt_ref(const void* p) \x7b",
   "    std::ostringstream os;",
   "    os << \"__PT_POINTER_PREFIX__\" << std::hex << reinterpret_cast<std::uintptr_t>(p);",
   "    return os.str();",
   "\x7d",
   "",
   "template <class...> struct __pt_void \x7b typedef void type; \x7d;",
   "template <class T, class = void> struct __pt_is_iterable : std::false_type \x7b\x7d;",
   "template <class T>",
   "struct __pt_is_iterable<T, typename __pt_void<decltype(std::begin(std::declval<const T&>())), decltype(std::end(std::declval<const T&>()))>::type>",
   "    : std::true_type \x7b\x7d;",
   "template <class T>",
   "struct __pt_is_container",
   "    : std::integral_constant<bool, __pt_is_iterable<T>::value && !std::is_array<T>::value && !std::is_same<T, std::string>::value> \x7b\x7d;",
   "template <class T, class = void> struct __pt_is_map : std::false_type \x7b\x7d;",
   "template <class T> struct __pt_is_map<T, typename __pt_void<typename T::mapped_type>::type> : std::true_type \x7b\x7d;",
   "template <class T, class = void> struct __pt_is_set : std::false_type \x7b\x7d;",
   "template <class T> struct __pt_is_set<T, typename __pt_void<typename T::key_type>::type> : std::true_type \x7b\x7d;",
   "template <class T> struct __pt_has_dumper : std::false_type \x7b\x7d;",
   "",
   "template <class T>",
   "typename std::enable_if<std::is_arithmetic<T>::value, std::string>::type __pt_to_json(const T& v);",
   "inline std::string __pt_to_json(const char& c);",
   "inline std::string __pt_to_json(const std::string& s);",
   "inline std::string __pt_to_json(const char* s);",
   "inline std::string __pt_to_json(char* s);",
   "template <class T> std::string __pt_to_json(T* const& p);",
   "template <class T, std::size_t N> std::string __pt_to_json(const T (&arr)[N]);",
   "template <class T> std::string __pt_to_json(const std::vector<T>& v);",
   "template <class A, class B> std::string __pt_to_json(const std::pair<A, B>& p);",
   "template <class T>",
   "typename std::enable_if<!std::is_arithmetic<T>::value && !std::is_pointer<T>::value && !std::is_array<T>::value, std::string>::type",
   "__pt_to_json(const T& v);",
   "",
   "template <class T> void __pt_recurse_field(const T& v, int depth, std::set<const void*>& visited);",
   "template <class T> void __pt_recurse_field(const std::vector<T>& v, int depth, std::set<const void*>& visited);",
   "template <class A, class B> void __pt_recurse_field(const std::pair<A, B>& p, int depth, std::set<const void*>& visited);",
   "template <class T> void __pt_dump_vector(const std::vector<T>& v, int depth, std::set<const void*>& visited);",
   "template <class T> void __pt_dump_container(const T& c, int depth, std::set<const void*>& visited);",
   "template <class T> void __pt_try_dump(const T& v) \x7b",
   "    std::set<const void*> visited;",
   "    __pt_recurse_field(v, 0, visited);",
   "\x7d",
   "",
   "template <class T>",
   "typename std::enable_if<std::is_arithmetic<T>::value, std::string>::type __pt_to_json(const T& v) \x7b",
   "    std::ostringstream os;",
   "    if (std::is_integral<T>::value && sizeof(T) == 1 && !std::is_same<T, bool>::value) \x7b",
   "        os << static_cast<int>(v);",
   "    \x7d else \x7b",
   "        os << std::boolalpha << v;",
   "    \x7d",
   "    if (std::is_floating_point<T>::value && !std::isfinite(static_cast<double>(v))) return __pt_quote(os.str());",
   "    return os.str();",
   "\x7d",
   "inline std::string __pt_to_json(const char& c) \x7b return __pt_quote(std::string(1, c)); \x7d",
   "inline std::string __pt_to_json(const std::string& s) \x7b return __pt_quote(s); \x7d",
   "inline std::string __pt_to_json(const char* s) \x7b return s ? __pt_quote(s) : \"null\"; \x7d",
   "inline std::string __pt_to_json(char* s) \x7b return s ? __pt_quote(s) : \"null\"; \x7d",
   "template <class T> std::string __pt_to_json(T* const& p) \x7b return p ? __pt_quote(__pt_ref((const void*)p)) : \"null\"; \x7d",
   "template <class T, std::size_t N> std::string __pt_to_json(const T (&arr)[N]) \x7b",
   "    std::ostringstream os;",
   "    os << \"[\";",
   "    for (std::size_t i = 0; i < N && i < __PT_MAX_ITEMS__; ++i) \x7b",
   "        if (i) os << \",\";",
   "        os << __pt_to_json(arr[i]);",
   "    \x7d",
   "    os << \"]\";",
   "    return os.str();",
   "\x7d",
   "template <class T> std::string __pt_to_json(const std::vector<T>& v) \x7b return __pt_quote(__pt_ref(&v)); \x7d",
   "template <class A, class B> std::string __pt_to_json(const std::pair<A, B>& p) \x7b",
   "    return \"[\" + __pt_to_json(p.first) + \",\" + __pt_to_json(p.second) + \"]\";",
   "\x7d",
   "template <class T>",
   "typename std::enable_if<!std::is_arithmetic<T>::value && !std::is_pointer<T>::value && !std::is_array<T>::value, std::string>::type",
   "__pt_to_json(const T& v) \x7b",
   "    if (__pt_has_dumper<T>::value || __pt_is_container<T>::value) return __pt_quote(__pt_ref(std::addressof(v)));",
   "    return __pt_quote(\"__PT_OPAQUE__\");",
   "\x7d",
   "",
   "template <class T> void __pt_recurse_into(const T&, int, std::set<const void*>&, std::false_type) \x7b\x7d",
   "template <class T> void __pt_recurse_into(const T& v, int depth, std::set<const void*>& visited, std::true_type) \x7b",
   "    __pt_dump_container(v, depth, visited);",
   "\x7d",
   "template <class T> void __pt_recurse_field(const T& v, int depth, std::set<const void*>& visited) \x7b",
   "    __pt_recurse_into(v, depth, visited, __pt_is_container<T>());",
   "\x7d",
   "template <class A, class B> void __pt_recurse_field(const std::pair<A, B>& p, int depth, std::set<const void*>& visited) \x7b",
   "    __pt_recurse_field(p.first, depth, visited);",
   "    __pt_recurse_field(p.second, depth, visited);",
   "\x7d",
   "",
   "template <class T> void __pt_write_items(std::ostringstream& os, const T& c, std::true_type) \x7b",
   "    std::size_t i = 0;",
   "    os << \"\x7b\";",
   "    for (const auto& item : c) \x7b",
   "        if (i == __PT_MAX_ITEMS__) break;",
   "        if (i++) os << \",\";",
   "        std::string key = __pt_to_json(item.first);",
   "        os << (!key.empty() && key[0] == '\"' ? key : __pt_quote(key)) << \":\" << __pt_to_json(item.second);",
   "    \x7d",
   "    os << \"\x7d\";",
   "\x7d",
   "template <class T> void __pt_write_items(std::ostringstream& os, const T& c, std::false_type) \x7b",
   "    std::size_t i = 0;",
   "    os << \"[\";",
   "    for (const auto& item : c) \x7b",
   "        if (i == __PT_MAX_ITEMS__) break;",
   "        if (i++) os << \",\";",
   "        os << __pt_to_json(item);",
   "    \x7d",
   "    os << \"]\";",
   "\x7d",
   "template <class T> void __pt_dump_container(const T& c, int depth, std::set<const void*>& visited) \x7b",
   "    const void* addr = std::addressof(c);",
   "    if (depth > __PT_MAX_DEPTH__ || visited.count(addr)) return;",
   "    visited.insert(addr);",
   "    const char* type = __pt_is_map<T>::value ? \"map\" : (__pt_is_set<T>::value ? \"set\" : \"list\");",
   "    std::ostringstream os;",
   "    os << \"HEAPPUT:\" << __pt_ref(addr) << \":\x7b\\\"type\\\":\\\"\" << type << \"\\\",\\\"value\\\":\";",
   "    __pt_write_items(os, c, __pt_is_map<T>());",
   "    os << \"\x7d\";",
   "    std::cout << os.str() << std::endl;",
   "    std::size_t i = 0;",
   "    for (const auto& item : c) \x7b",
   "        if (i++ == __PT_MAX_ITEMS__) break;",
   "        __pt_recurse_field(item, depth + 1, visited);",
   "    \x7d",
   "\x7d",
   "",
   "template <class T> void __pt_dump_vector(const std::vector<T>& v, int depth, std::set<const void*>& visited) \x7b",
   "    if (depth > __PT_MAX_DEPTH__ || visited.count(&v)) return;",
   "    visited.insert(&v);",
   "    std::size_t n = v.size() < __PT_MAX_ITEMS__ ? v.size() : __PT_MAX_ITEMS__;",
   "    std::ostringstream os;",
   "    os << \"HEAPPUT:\" << __pt_ref(&v) << \":\x7b\\\"type\\\":\\\"vector\\\",\\\"value\\\":[\";",
   "    for (std::size_t i = 0; i < n; ++i) \x7b",
   "        if (i) os << \",\";",
   "        os << __pt_to_json(v[i]);",
   "    \x7d",
   "    os << \"]\x7d\";",
   "    std::cout << os.str() << std::endl;",
   "    for (std::size_t i = 0; i < n; ++i) __pt_recurse_field(v[i], depth + 1, visited);",
   "\x7d",
   "template <class T> void __pt_recurse_field(const std::vector<T>& v, int depth, std::set<const void*>& visited) \x7b",
   "    __pt_dump_vector(v, depth, visited);",
   "\x7d",
   "",
   "template <class T, std::size_t N> void __pt_dump_array(const char* name, const T (&arr)[N]) \x7b",
   "    std::set<const void*> visited;",
   "    std::ostringstream os;",
   "    os << \"HEAPPUT:__PT_ARRAY_PREFIX__\" << name << \":\x7b\\\"type\\\":\\\"array\\\",\\\"value\\\":[\";",
   "    for (std::size_t i = 0; i < N && i < __PT_MAX_ITEMS__; ++i) \x7b",
   "        if (i) os << \",\";",
   "        os << __pt_to_json(arr[i]);",
   "    \x7d",
   "    os << \"]\x7d\";",
   "    std::cout << os.str() << std::endl;",
   "    for (std::size_t i = 0; i < N && i < __PT_MAX_ITEMS__; ++i) __pt_recurse_field(arr[i], 1, visited);",
   "    std::cout << \"VARBIND:\" << name << \":\\\"__PT_ARRAY_PREFIX__\" << name << \"\\\"\" << std::endl;",
   "\x7d",
   "",
   "inline void __pt_trace_impl(int line) \x7b std::cout << \"LINEMARK:\" << line << std::endl; \x7d",
   "template <class T, class... Rest>",
   "void __pt_trace_impl(int line, const char* name, const T& value, const Rest&... rest) \x7b",
   "    __pt_try_dump(value);",
   "    std::cout << \"VARBIND:\" << name << \":\" << __pt_to_json(value) << std::endl;",
   "    __pt_trace_impl(line, rest...);",
   "\x7d",
   ""]

def maxItems : Nat := 20

def defaultMaxText : Int := 50

/--
The text in front of a program. Texts in its records are cut to the given length.
-/
def support (maxText : Int) : String :=
  Text.fill supportTemplate
    [("__PT_MAX_TEXT__", toString maxText), ("__PT_MAX_DEPTH__", toString maxDepth),
     ("__PT_MAX_ITEMS__", toString maxItems), ("__PT_POINTER_PREFIX__", "obj0x"),
     ("__PT_ARRAY_PREFIX__", "obj_arr_"), ("__PT_OPAQUE__", "<object>")]

end Playback.Cpp
