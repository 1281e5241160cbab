import CInspect.Text.Packed
/-!
The thread headers: threads of the system interface and of the C standard, semaphores and scheduling.

Each entry is the full path of a header and its text, reduced to the
declarations and macros that programs can see, each on the line it
stands on in the header.
-/

namespace CInspect.Includes

/-- The thread, semaphore and scheduling headers. -/
def threadHeaders : List (String × String) := Text.unpackEntries <|
  String.join [
    "/usr/include/pthread.h`~1!!#ifndef _PTHREAD_H`#define~+!6\t1``#~'!t <features.h>~+!9sched~.!6time.h>~,!cbits/endian~.!P~%!<~'%|typ~0%-~%!Csetjmp~3!<wordsize~3!>",
    "~%!s/struct_timespec~9!L__sigset_t~A!r__jmp_buf_tag~&!Qf~%'s_USE_MISC`# ~5&Z_stack_min-dynami~&%bendif```enum`@`  ~((RCREATE_JOINABLE,~)(w~7!E\t~7!;~2!zDETACHED",
    "~8!y~(!D\t~8!]$;`~4&-MUTEX_TIMED_NP,~1!=RECURSIVE~5!BERRORCHECK~5!CADAPT~&!c`#if ~&&6d~'(MUNIX98 ||~/!;XOPEN2K8`  ~2!zNORMAL =~S&<~1!X~I&W~1!_~?&uDEFAULT~1![~&&",
    "6~(*m~-+]GNU``  ,~/!VFAST_NP~9&m~(!s~%)]~-!x~''o~9)tSTALLED,~8!<~4%F~9!XROBUST~8!;~4!r~&!=`$;~*.'~2*LPOSIX199506~2*Q~&*l~3&]PRIO_NONE,~0!8INHERIT~1!;PROTEC~/%a~",
    "/.B~&&2INITIALIZER \\` @ @  __~:!H(~6)6) $ $~2*,# ~/%E~*,!~1%*_NP~U%R~,,z~'%V~0%E~+,d~l%F~--c~7%G~)0b~l%E~+1]~'%C~()]~S1n~2+=RWLOCK_PREFER_READ~%&!,~9!GWRIT~H!G",
    "ON~82%~'!T~'1A~..4~7%e~'63~2+3~&!S~/,V~%(9~*(8~3!I(~9%]~()Y~2,[~7%L~4&o~2)|~S%f~='z~(%y~'4l~)*?~1)e~'0e_SCHED~2;d~-!C ~7![~+!vEXPLIC~)!<~0!v~.!C~9![~7;_SCOPE_SY",
    "STEM~2&&~,!B  ~6!Z~1!tPROCESS~7!t~'!B ~8!Z~7%|~'!C_PRIVAT~3?j~/!E~8!;~3!zSHAR~3(+~.!C~9![~&&+~2APOND~-+C@ @ @0$,~(!(, ~,!+0~%!&~&!1~%+>```~&E& _~(DIcleanu~%E1fe",
    "r~%'Fvoid (*__routine) (~%!6*);~(!B*__arg;`  int __canceltype;`  ~>%3 *__prev;~&&e~2EXANCEL_E~8EV~,!C ~7![~2!vDIS~%!<~7!v~'!C~9![$;~9&!DEFERR~4.s~/!E\t~7!;~2!zA",
    "SYNCHRONOUS~8%%~,!H\t~<!g$;~7!jED (~()Z -1)~4+JONC~&3< 0~9Bv~35aBARRIER_SERIAL_~&!9 -1~*2p__BEGIN_DECLS~%,textern~%+(~)*hreate (~(!3t *__restrict __new~&!=,`\t\t",
    "\t   cons~*!fattr~1!Xattr~(!S~&'!(*__start~2,x~.!M~.!org) __THROWNL __nonnull ((1, 3))~&/K~(&S~%!i~(%lexit~(%3__retval)~'%oibute__ ((__noreturn__~)!v~5'Pjoin~,'",
    "N__th,~'&0*__~'!;~&!s);`~3I?~4%%tryjoin_np~J%+~('8;`~%:hn~*%5TIME_BITS64~:&Dtimed~P%D~%(z\t~'*%~'1Z~(Tg~%23bstime~*'k~5+Alock~R%I ~A!!~%%&i~&!p~'!/~K&*# else`# ",
    "~)>aREDIRECT~,&=~*!9~+&3~+'r~9%y~e&e~B&>~9!b__~4&%64);`~A&W~,)(~|&W~8)7~|'/~1&S~%'/# ~)*)~(4?~5-U~8'v~4!_~-,l~8%L~%%J~&E/~1E7~5-ndetach~0(H~,0=~)![~*!G~)a>elf~&",
    "3A~)!U~33>~%(5~(3;~3%Sequal~0%Rread1, ~2!82)` ~I%<~8&t~%7Binit~*%F~*7Uattr~,&K~+6U~9&>~%!edestroy~9!|~&*w~T%(get~&)&st~%:;~89j~)9]\t\tin~%!5~+![~<%O, 2~>%Rs~/%R",
    "~B%L~J%K~')(~;&zgua~&jb~E&x~&.ysize~&!=~)!d~d'&~+%V~J%P~H%O~C'*~%o8param~:'+~4?o~'%b~(2m~%!n_~&!o~.!V~%!7~d'K~,%y~O%s~-4k~7%y~,!T~(&,~X&'~)(%olicy~C(&~&,[~'&3 ~",
    "'.6~,'i~%!o~j'j~'%f~7+;~':E~C%A~B'(inheri~&%E~I') ~:'*~'!v~d'+~.%i~=1F~''2~D%I~E.;ope~R.6~2'-~%!o~f*3~%%_~>*-~B%9~C-1tackaddr~H*)~(.V~&%V~)B2~,'%~(!y~B')~-;Pdep",
    "recated__;~>;Ks~-&2~C4o~(NS~F%m~?%j~A'v~>85~;'v~*8A~0'w~J8L~C'Z~R8N~F%Q)~1QB~*wd~?'W~R.J~=+J~(!I~a'w~+U[~A'z~:/&~1+K~/%n~,%b~:((~(H_~GUN~(%naffinity~-Ri~53x~)%_",
    "cpusetsize~'!=~&(mcpu_set~&!]~&!H~>'h3~C4I~-%q~DEj~;%w~X%q~3%pget~'Hgfault~;'e~[4Q~%&8gmask~B(p~-?X^*%39 *~'!h~?+zg~.%9~IG*~:%9~0esATTR_NO_SIGMASK_NP (~'fG~3%gs",
    "~3(0~<%g~D;_~<)D~4[k~R%82~,.[`~:&U~4F<~%%Earget~'Qc~.BP~((G~<F=~AH0~=,N~G%g~9>Z~.%y~eJ32~<.T~)'mrio~E'lrio~.%:^1%3K~%3V~6'?name~2*J~.%7cha~%sfbuf~(ka~-9Pbuflen~",
    "A*h~8&k~F%R~&4a~'%Xname~J,*~-'0^)%3v~5'3concurrency~/[%~:&9~-!X~&(hlevel~+!b~98E~3!yyield~1%M#~1hL_NTH~6et_NTH~*'w~%!w,~'!x,~',5~%!8~&]C~5Bwmsg__ (\"\\`~.%jis ~",
    "*!J, use~,!x instead\"~-j_~/ct~&!N~+!Z~)cT~;3c~4;S~(2Q~99J~)6j~O9R~>9O~Z%Z~S%T~-4L~8'Fonc~+Ebonc~'C-~%!-control~&/:^)%(=ini~0wF~%I1~6G7~<5z^&%(a~'ai~'N*tate~)Rg",
    "old~&aT;~A!ltyp~)!ktyp~-!jtype~8(k~&!e~1iu;~9y.tes~'%C~'&z~&!O~'5d^(%+5^,%M8`@~%-Y~'!5~1!G^*%+t~%=Kwas_saved^&%+Ktypedef~'6p~%!r~;%:~1!8[1]^,%-7pad[4];`$~+mfunw",
    "ind~&!i~3jraligned~(jt^)%SS^)%-Yfct~*!Y^*%(1~9!E~)+q~)&D^0%.Wframe^.%/i~'&R^=%/p~'!H^-%/wdo_it^0%0.~%*M~&(2^.%>mGNUC__ &&~+!7EXCEPTIONS~+4(cplusplus``class~3&A~",
    "%!;~|&A~+&A` public:` ~8%U~'%7(*__fct~*%G~*MSarg~&1,: ~0%y (~&!Z, ~,%o (~&!Y,~(%q (1) @ $`  ~~~9%W) @ if (~'!X)~5%<~*%4);~%!w~%%x_~%nQoit~(/onewval) @~)%R=~)!9~",
    "-!]defer~&%L~70l^9%3[~&b%  &~-(H~.%jrestore ()~'6l~9%6~-!l, 0~%!o$~*3_~29*~('jpush(~''K, arg) \\`  do @~%%v~*Jo\\`~0zz~,(U__cl~%.7 ~.!u~?%Nop(execute)~)%0~'!p.~",
    "+(o~(!H;~/%c$ while (0)`^,%*M~*T,~6||~*&|~&)D_np~|',~%!u;~1!g~*&c~(*s`~A&(op~(*<_n~='a~**f;~4&6~X(2^,%'6lse~%&*__~&8Z_inline~%,;`~2'E~).a~>5% *_~&!,)~%2j~&/V~%!",
    "4->~(/b~'&?~)!9~310~/!>~%(T`$~w-:~?&J~)(=~0!] ~39J~(!b_ (~9'k)))~0!p= @ .~1'-=~)+W),~+!Carg = (~%4?\t ~)!q\t  .~*2w1 ^(%QL~X/;~(!p~|/;~Z/;~|)-~|)-~/)-~;),~2&i~'",
    "NP~P8%~+%3~%!w&~,)U~,86~b24~>%p~7%D, NULL);~:4(~M+M^3%5l~(2_^,%Hn~n9m~/FV~'&Ubuf;~0!X~BBr~,*Z;~4!d*~4*p~3*Q~'?1ot_first_call~%?.~&esjmp~)Kn~,&-.~0IY,~'*_~(Z60~1",
    "%j~&5Xglibc_unlikely (~0%L))~2.U~2(+\t~ABy~/!Q~/(Vnext (&~,&M~/!W~'&B~)!!~2'd  $~2%j~>*+register~)(%~;%R  ~&+*~-P'~;!r~7+=~&b+~)U)~5M2;~>,v~25z~&%m~,.';~0'X~H!!",
    "~&!w~,!p~?-t~D'n~0+L~(&8~3%)  ~E*w~70v~6(p~3%v~B(r~:(o#~79V~|Ep~|2/~|2/~|2/~|2/~|2/~+!!~x2/~(KC~>.C~K24~(!w~d2:~>E;~;=k~|2H~T2H~*NP~1(0~0+n~|2O~I2O~*&%~[2W~*np~",
    "8%E~+-%~]*J^?%eU^*%cN^'%r4~'!s~0!Xweak~'!T~&&3~%!L~1ms#if~(dGPREREQ (11, ~*(.~2t)NL (~22F~*yB(~>iKenv[1]~+yt~'mSavemask)~*!=~+%4^.%:w~&'5s_twice__;~'FH~+i%~0%q(",
    "env, ~)%3~%*w~+!J (~*&0~,&)*~+6H(env), (~)!l~/'K~+!t~5!s~-&y~/&s^*%lJ;^A%Z_mutex^/%Wh~&!7~%+6~%!.~+(0^/%no~%!C^*%-(~)!2^V%2V~&%G^1%XK~0%a~]%+trylo^,%:G~>%+^0%p8",
    "~?%-~e%*^6%?.^;%nS~:&himed~9%c^+%.=~*)c\t ^<%fy^1%DU^*%g4^:%sn~%xv^:%m!~&00~>0M~7&S^?%o1~G&t~>8e~B'2 ^D%j;~(8!~7&C64)~7']^9%jX~0)c~;%+^:%j!^3&=(~S+;clock~U+;^9%",
    "t&~u+Y3~t+Y~)&s~|+Y~-+Y^M%r>~|,7~3&y~3,73~F,7~**]~;%+~:,7~:+dun~f5h~:%-getprioceiling^0%DV~)%;^)%a.~6-(\t^4%?U~*%&^G%T:~9%ws~/%w~J.o\t^+%?E~'!e~:&+old_~F&+3^)%-",
    "V~18f8~;&Bconsistent~[<A^5&D4^Y%<9~0%j_np,~3%n~)D[~8!]~/-d)^N%<|~3%U^4%=1~8!S\"~F.z~-%-~8!?^>&%8~9)X^3%zF~/D.~bD)^6%zU~v%2getpshar^2%mM~-%;~40<^0%l'~/0;~&%%^Y%j",
    "Q~*%Ns~+%u~;'/~/0.~C%N~(EA^Q&cF~B'|~&sg~=JS^;%gN~2'ukind^[%gF~-'t~&%n~<'q~''k~A%D^-%E(~B+8rotocol~E+9~:+:~57T~&%(~b7Q~)+=~)%z~D+>~)7K~C%R~H.e~?;&~0'P ~<'S  ~g;1",
    "~C'X~8;4~7'[~)X.~H%Z^O%nR~-'yrobust~?.e^2&1G~&![ness~D'J~v;-~.&9_np~(:s~6(2~'0d~6;B~.!s~f;E~1%o~B;H~.!V~E;K~2%3~;!C~2;Q~C,6~(*C~G*<~I*;~|*8~-&/~G*8~;*6s~s*6s~R*",
    "6s~R*6s~>*6s~:*6~+U|~O;|~8:2rwlock~/C=~'!8~04M~&!:~&*x~.1d~&!=~7<L^W&BR~'%T~1Cz~-%o~%!/~V87~'!nr~/c?~A%-~Jf0~(!pry~G%2~=f5 ~7f6~N[w~(%Himed~=%g~6)t~IWt^.%x*~JfC",
    "~*-i~_[g~2&c~I[j~?')~=!l~z[5~2&H64^(%KU~5'm~*'n~01Z~3*&~>%7~&!v~'1Z~07y~76O~R+e~%]d~]+e~<fi~x,-3~w,-~+'+~|,-~/,-~|fv~X,d~+'&~7,d3~I,d~,+%~>%7~=,d~;,3wr~|6k~*6k~",
    "i%2~v6n~=%j~|6n~|6n~96n~&&c~|.d~|.-~86n~&&H~i6n~'*&~>%7~|6n~3/L~]+e~|6n~>6n~y6o~|,.~5,.~|6o~_6o~=,e~O6o~8,e~-%7~Y6o~0z%~W6o~<%2~3p0~0N9~Znz~+!p~7N3~r%4~:p4~.%=~",
    "Vhw~bp7~+%Q~4p8~4'5~0hv~Hp:~C'Lkind^3&HP~g'Lref~j'I~)%v~M'Iref^D&T&~8->cond~/-8~%!6~0&dcond^+%B/~.'ocond^5&XN~%!r~Z,k~%!e~1-v~*%rcond~[%(sign^,'!0~<%'~JE4~%!lbr",
    "oadcast~_%,~<)/wa~Q)/^D%.y~)%h^:&=:^O%;G~&%k~%?5~L&+\t~G&)^/&Cu~G9x~6&a^B%;H^B'1K~-&h^C'1M~;'(~8;k~F'9~|=H~0=B~.&n~(==~:(*~9jS~/*M~:%1~FFo~),'~S,(~&>Q~|,(\t^'%Y",
    "7~/C[_~+GB~h,H4~AO:~F,J~)'1~|,J~],J~8'o~|-%~5-%~)'G~;-%4~BGD~/+L~:%3~>G;~96]~3F,~.;9~a;)~6F(~t%0~:F!~,%9^('-b~6BM~uEv~)%K~4Et~2')^-%&!~(%K^h%.!~,'N~%*[~B'L~(,R^",
    ";'3S~,.;~//_~'.H~h'bc~.O5~8'_~<0&^J%95^8'WA~4%wspin~/-gspin~*Q+~%UX~gKA~%%8~1-r~2%;~[%,~.(5~A%)~JF*~%%+^1%gB~r%.~0U_~W%-~7)fbarrie~03R~(!9~0-!~'!;^-'T=~/!X^8%D%",
    "~',M unsigned~'*ecount~V)W~(%w~1*f~-&8~'!0~a%1~.?M~C%.^K%X=~,']~5(V~g7%~,!q~8'T~s%6~:8;~/%?~(Tq~;Vn~vZ?~,%T~48H~5';~.%c~J3%^1&mu~3%ckey^1'j&key~&%Lkey~+Qi^*&4*~",
    "%)J_function^*%y[~V);key_dele~2%R~%%Q^4&wn~&%>~(!Qgetspecific~J!i^/&nd~=!g^,%8(^)&keoint~&.W^.'WK_access_none (2)^;(5N^6&zrpu~':N^4'Y(~+KO~/<d~D:z2~5*?^8'11fork",
    "^+&hOprepar^)&sl^-'o4~%!Darent~9!Cchild^,&tR^6')HEXTERN_INLINES^2&Zqint`_^.%CD^Q']Y^&&Zm^&&+0~*!P ==~*!H;`^*(11__END^('su~'!8\x00^-(I(^'(Gp~.(&^(&.Ondef\t^&()d^",
    "*(I%~)!4^:(H|`^5(FE~%!=^)(In_need_^&&ze~0!9NULL~+!jstddef^4(IX~%%'/time^C(Gk^.(Hb~,U6~(,Y^+(Gj^((Jx^+%DN~'!Upid_t_~&&+d^)&va~'!; ~%!);^,&/n~.!T~+DD~-&%^3(LP~%!;",
    "cpu-set~'((~'%!^''2hriority   ~/!5~+'z~0!O~/!M^2'zJ~+.)~&!Pset^''5'~(&c~%!+,^Q'6H;~4%,g~8%,~<%&~=!y^('5-ul^'&?F~,%%i^0'8j~4U>~S%Dg~:%D~>!_^6'1.~6%1~))4_max^(&tp",
    "algorithm~M!fin~>!f#~Eac~&%(r~%>M_~%75val~8)G~,YBt^-'4b~&X:^Q%SB~5%M^=%'Z~F%l~=!i~(.'~/%F^''tk^/'43~6'F~9!j^C&.!~*11CPU_SETSIZE __~+!1~1!G(cpu, ^&'2[p)\t~*!R_S ",
    "~&!?sizeof~%!0^&'37)~*!T~.!vCLR~6!vCLR~T!vIS~1%s~'!w~%!=~=!y^(&Ma~6%)ZERO(~0%xZERO_S (~L&oOUNT~1!o~%!9~B!p~1(__S~'&J^''7b~*&s ~4(l~0!J~1(a~C!w~-(m~>!w~'(E~8!y~5",
    "(m~(!J~((b^'':/~7(f_S(~1%'^'&4O~-(t~?&w~&(P~=!r~*(w~1!s~.!tEQUAL~()b1~)!K2^(&Gq~)!H~?)p~,!b~3%1~3&*~B%<~;!T~/&AAND(destset, srcset1~(!,~-%,OP~8&C~9!f, &~/&MOR~|",
    "%<t2, |~/%<X~|%=~&%=~^)~1't~,))~M%I~B!X~4't~|%<~7't~|%=~''t~/'uLLOC_SIZE(~&_e~'!z~*!; ~'!<~3!]~3!W~6!RFREE~'/E~(!RFREE ~(!7`~7Ch^('Iw~2<R^7'Is~,Cm^4'I|~AAl~Y%A~",
    "=%:~LO7emaphore^=(v>SEMAPHORE^,(vA~+!8^F(vCy~+O?~5VA^0(sO~:NK~8M%~*&I>~3Kg~-(Tem~'e2sem~&'qsem~/oE~1hvvalue~.Y&~<[psem~*e3~,%7^E%pS~'!Tsem_open~(db^,'YV~(&*ofla",
    "g, ...~O%oclose~S%m~(!funlink~4%l~=!m~2!p~&k)~0%W~Gy:^J%8&~%%.^*%7u~)%=~+gusem~'.>^P%.m^O&W8^8%.e~-%u~9Jl~:&5~8KC^j%P]~%%4^0%6/^H&VR~.(P~1!q^u&V=~',d^(%5d~?)o~)",
    "f1c^)%Xc~d*-3~[*-^D%4f~S*-~0&b~|*W~-*W^/%3d^H&Tt~.):~1!q^G&T_~%'Iry~617^G%%gsem_pos~a!gget~%6q~:)1~3ubsval~95W~)uY~C;u~&jjs~<j3 ^'(c3S~,;r~)!6~E;p~(h'~0:X~0i4~%",
    "%]-~&:B-^8)5y~9<3`#if (!^*&0>STDC_VERSION__\t\t\t\t^'&|l||~1!B <= 201710L~-!L!^0&wg3, 0)) && ~+%9^*'_,~)DW~'oKlocal _T~+!1~*2C~'!OTSS_DTOR_ITERATIONS 4~+k8tss_t",
    " ~%!);~)!:~'r.tss_dtor_~(rP*)^+'f[~%pOd_t ~&!*~*!eint (*~%!9^&(fv~-!f^*(lo~&!Fu~%vX  = 0,~(!8bus~%kY = 1~)!8error~&!82~)!8nomem~&!83~)!8~%5kout = 4^/(p8mtx_plai",
    "n~'%.~%%Dmtx_recursive~(%Dmt^'&kz~'!N2^-'i]^''nJflag ~)!-^*(m8ONCE_FLAG^&(lc__~.!4~*!ounion~%%m~%>Y_~%rG[_~%K0OF^/)*JT];`  long~'5Galign __LOCK_ALIGNMENT;`$~&&9",
    ";~R%7COND~'%6~&wOnsion__~&%E~F%Jcn~%*8~1AZ~%(q^(%(J~'*i^&(aR, ~,*X __func^.'fi;~3!s~'y!~'!r__lhs~'!qt __rhs~,!Z~,,.^&'|St^-'p?~Gkz~&%|lee^)%d3~4iuime^&%'T,`\t^/",
    "(QE~.8gmaining)~:l6~8;=~*%Y,~H%Z~89l~,!!~=%x^;%KI~*%a~6l;~+'b~.!Q^4),;^+%,u~&)jx^*'jqres^F(rS~0)2^((dk~)*Jthr~6!N^&(ry~,!L~,9d^3'wL~%!O~,tV;^T%)b~5,T^)%)R~/!52^",
    "P%)N~0.hmt^('.=~%0Y^)&l0~(O&^)'zj~0!Y^&%?_~.!Y~''9~F-q~)45~/!p^5%Wo~GCU~*,i~T-x~-%c,~=%d~E-q~EEc~I!p~-&V~;.V~-&>~6.Y~.(J~1!W~3.b~1)3^(%Gm~4*&~/!P^(%G6~3!O~,-imt",
    "^+'4>~5+)~,!Rcall^'(-F~*:e*_~%!+,^*%4Tfunc)~&.d~3UJc^)%r=c^-%n0;~3!L^(%op~C!N^+%o<~2!Q~/!P~&Ic~-!K, ~[.*c^.%mXc^>%oW~|.J~K.J~-&*,~<&+~H-T~|/6~|/6~%!J~-'+~6/6~.)",
    "V~1!W~?9uc^,%y:~)(5COND^5(wWtss~*B2~%I_*~&Iiid, ~*IR ^'%FNucto~.9|~&BDtss_get~(!k~(!j~2:Nss_s~2!L~*C6val~2%.~%%X^'%G'~2%0~CQ9x86_64-linux-gnu/^.%9f`~<QQBITS^)%(",
    ">~+QV~.!; 1~,m(^(%?? ~&K_\"Never ^8%;8 directly; us^+)gC^((Ap.\"^2)U(^-%/I\t1024~+!>NCPUBITS\t(8 *^)%-:~%p%_^''I-~,KvCPU_MASK_TYPE ~*!K;~0%?ELT(cpu)\t(~%!* /~+%",
    ";)~.!OMASK~(!P~+%I 1 << ~'!f%~,!f~,%f^+(:B~*!c __bits[~-&y~-%S]~%K'~(rr;^6'OY2, 91~+v2^,%*z^2%*)^('c]__builtin_mem~%,D~'!F, '\\0'^)%,a);^,'sF^0'Nh~E%9^7'zO~(uji",
    ";~>!Cmax =~)zP) /~4**^3(.0~((8*~&(9 =~)&a)->~&!7^1'f*for (__i = 0; __i <~'%S; ++__i)^5'Xw~')Fi]~%!]~1&J^-'w7~'2x~0-!^:%1V\\`  (~-Qo~2'W(@~-yj~'&k^4'gO~''C / 8 <",
    "~*()~4!M? (~,,q *)~&,n~-'n))[~(.!~'(h)]^,'eO|=~*-q~(!E~5%=: 0; $)~/.Q^>%5v~|'C~|'C~0'C&= ~~~a'D^?%8C~|'F~H'F~'U!~V'M~*'L &~3*n) != 0~<'P~0*t^8%9s^(']pched_cpuco",
    "unt^6%9v~I4]^J%9,(~-4icmp ^3%:t~*4n == ~84i~M%D~A*:~2)6__arr1~+3|1~-4!~.(W~7!f2~+!f2~;!f~c62~47>~.!D~G5u~)+Y^&'v'arr1~&5s!= ~&&L~%!2~.6J\t  break~6%I~%%D=~)%;~%",
    "/V~/mV^*%7[^F%7Zo~K/o^-%4)dest = ^(%=E^1'p0~;)G~%*1~'%Z~X*0~'&:~|*/~x*/~06%~&'m~)2M~(<<~,*Sop~,*S;~.*3dest~522^2%<y~%)b~%4/~%!2+~+Cj - 1~/ET~8Fm~3%5^*%=P~)33all",
    "oc^*%=U~-!X^/%=V~)!Xfree^+%=[~/y<~-S?~14H~()!~*2A^2%=L~&4d~''c^'%<7~'%%~.!L~/&A~*8k~(&f^(%%3wur;~-N8~4&J~-%Q^,%>y~YNH^:%l-~/NF^/%l3~.!9~SNB~)N'~TN?~&%0OTHER\t\t",
    "0~/!:FIFO\t\t1~/!9RR\t\t2^;*(z~&!JBATCH\t\t3~0!;ISO\t\t4~1!9DLE\t\t5~0!:DEADLINE\t\t6`~0!?RESET_ON_FORK\t0x40~&!!^F%]nSIGNAL~&/3 0x~&!aff~+!FLONE_VM~-!F100~0!FF",
    "S~-!F2~3!FILES~*!F4~2!FSIGHAND~(!F8~2!FPIDFD~)!k1000`~1!GTRACE~(!G20~2!lVFORK~)!l4~5!lARENT~(!G8~4!G~&|V~'!G10~3%7NEWN~)&p2~4!FSYSVSEM~&!F4~5!FETTLS~'!k8~4!F~&&",
    "&~%!MI~&'f~%%_~2&,CHILD_CLEAR~(!N2~6!N^(*<T~%!H~&+&~0!GUN~%(:~&!G8~<%A~*%l~&%k~2!LNEWCGROUP~'*o200~7'zUTS\t0x~'%f~4!EIPC\t0x~'%d~5!iSER\t0x10~9!FPID\t0x2~:!ENET",
    "~-.B~.!EIO\t0x~'%P0`~+1A~)!gTIME\t~(.G8~,/.^:%3r^+%ry^6%5'^;),Hclon^'(vP~%o9^*&.D^((lA~(!1chil^'*Ev^&%(:~&8cflags^-%*k^&%KA^7%Rgunshar^)(wq~%!e^B%S;cpu^>%tB~(!H",
    "^-%Nn*^/%O&*~9%7etns~)%e^)%wHns~%zh^U%Sq~799^<%T/^7%T0~.8i~%8E~0!s~,8i~)*R~-!D~28q^;*MW~'O:WORD~%cL== 6~+7u^)%2NSEM_T\t32~2N6~-!E16~3::EM_FAILED~&6S(^(%?w) 0~,e",
    "J^?%4'~%%0^5%51;`$^&%C];~F(p~:.)~B>ATYPES_STRUC^'*4G_PARAM~/>R~8!K 1^*)!'~+%I~%&s~*-2^(&!7^'(|&~4+Jproc_servic~?+6PROC_SERVIC^-%[G~.!;~%%l^.%[4procfs~41B~))0^**",
    ".NS_OK,~&!,ERR~'!-BADPID~*!0L~,!0ADD~(!LNOSYM~)!/FREGS`$ ps_err_e^-)+Dps_prochandle~,r5~(!R~%!Fdread^)(:4~-!X *^)'TRsaddr_t~(2Y^(%cW);~6!|write~A%!~+%%^,&;w~?%+",
    "t~w&+t~k&+~6(6lgetregs~B%/ lwpid_t, prgre^&)Ik~6&.ls~R!|~&&/~C%)getfp~G%+~-&-~&!Y~&Lm~:&0~T%*~(&4~/%0~*(?^&&8K~%|rpi~9*H^.%/T~,%k^*)CT_area~=%p\t~-%nint,~)*C~)%",
    "2~5+;global_lookup~B%2^,%egobject^&%gZ~4!Dsym~.!A~*%dsym_addr~9+wpstop~;'Z~4!Wcontinue~=(<~5**~;%;,~(((~7*j~A%E~,!g^J%Uu_db^E%Uw_DB^2%Uy~%!8\t1~'!T~(6I^'&FA^/%p",
    "rtdint^=%q.~774~37&TD~'7&TD~(7&TD_NOTH~*!/SV~)!.LWP~'!/BADPH~*!/T~+!/S~,!;A~*!/KEY~)!pMSG~)!/FPREGS~*%3IB~&';~)!5EVENT~)!1CAPAB~'!1DB~,&0APLIC~*&>S~(!iM~%_B~'!0",
    "PARTIALRE~*%QX~+%PTLSDEFE~+'1~%!d =~3!A^'%Xq~*!OLS`$ td~,:)~4(FTHR_ANY_STATE,~*!7UNKNOWN~+!5STOPPED~+!5RU~,!DACTIV~,!jZOMBI~,!4SLEEP~2!y_A~%!<~&&*thr^&)FZ~'&0~<",
    "&/TYP~-&.S~)'5~%%-^&*QV~)%%typ~(%!^0%-6~'!Gagen~-!/^&%,i~5!P~&/%~%%e~-!U *th_ta_p;`~+2:th_unique;~)%c~&!h~&%1~(>wlink_map^-)b?~+&pUSER_FLAGS\t0xf~'!!~0!MLOWEST_",
    "PRIORITY\t-20~,!GSIGNO_MASK\t\tNULL~.%9~%,fSIZE\t2~)!:BT_UISHIFT\t5~,!8NBIPUI\t(1 <<~+!I)~.!_~%%9(~)!S~%j1~8((_event^&)D3uint32_t ~%!7~%l=[~,%t]~*'v~'![~&'w~*j3",
    "td~&!<mask(n~'kwUINT32_C (1)^&%3c(n)~&kv&~*&,~-k]~(!oword~)!o~+!p~(!h) >>~-'/~)!k~(!i_emptyset(^D%1s~&L1^6%1p~+pE~,';~&pP> 0; --~0pK~'N%^'%&l~+()__i - 1^+%0c~*!",
    "W^.)3G~0&Kfill~|&J~h&J~*(z~*-a^.(l,~>&[add~(&Z, ~)*!~5%D~,*P (n)])^&%1I~,+] (n~++/~)%5del~]%5^&%/;~C%6ismember~/%7~2!b & ~I%M)~%VF~,)2 == 2~*V%~*%M~%-(~+*T(!~4%",
    "40]^&%oq~4!?1~%%?~'W1~'Y3~/%/ must be changed to match~-%w~+pq~47EALL~'!P~(>&VENT_NONE~&+|~1!EREAD~(==~,8zSWITCHTO~-!2FROM~'!4LOCK_TR~(!bCATCHSI~(<OIDL~(8t^&+*/",
    "~(=WEA~)?(PREEMP~(>*PRI^,*y<~&%m~(%_CONCURRENC~(%?TIMEOU~(!OMIN~(&iUM~&&h~,&TMAX~0!C~.!g~&'9^(*dg= 31~'=r~&3/;~4(BNOTIFY_B~&&=~'!1AUTO~%!5~*!6SYSCALL~&!xnotify~",
    ".!y~*7,~&!B~(;.~(!P ^(*gn~&]w  @`~,RV bptaddr;~)25syscallno;~%0Yu;~-%L~7<Z~&&jmsg~(%O~'&|~&8V;`~(L3~.<D~%<xp~.%p# if 0~%%atd_sync~*!Rsh~)fc  ~&9jptr_t data~&&*m",
    "sg;~,(Rmsg~4&/~+>Y~):- ~)0?;~3&?num^*)Zu~%!5~&%E~*%;buf~'>r~3<!a~%C%s~)aXn~&JSs^()[Mr_^+)qB~(!8nrunnable_~'%N~.!8den~(!8a~,!f~,!R~.!<~+!Vnlwps~&!N~-!5~%!G~(!5id",
    "~(%L~-!5~&!H$~,&U~'&y~)&z^*&qT~(!,;~1!?^&&wE~,!0~-'ii~)E4_iter_f^(%rg~0*t~(]');~2!ekey~)!e~,%9^)%dI^2)b5)~?c7~5Bbinfo~5Fei~)Fe~-owti_user~&q?~%+H~)'Xi_tid~%(F~&",
    "Uqti_tls~.GPi^&%y]func~%!N~.!=kbase~-kO~&!:size~0!oro~%Y2~(*C~&!5~(!M~.KA~'%Gte~-&J~%%xti_db_suspended~+!c~&K&~%&R^')g2 ~)/>ti_pc;~/!5s~%'Ushort~(%e~)'M~'!3pri~",
    "%&Z~&V+ ti_li~%%D^)*/nti_^'*/p~5&'tracem~&%a~1!Apreempt^&&)b~4!Direc~(!B~,%Bpending;~31:ti~'!/~*Heinfo^1&'b~(Ql t^(%kv^)&&-~3!Flog~2!E~,]_*~%4&mbol_lis~?!uta_ne",
    "w~8ZK__ps,~0,e*__ta~;!w^)%bt~.![~?!Zget_~(3X~.0'~-!i^)%zvnp~-b%~3!uph~<!o~*fn~6&z*__ph~<%2map_id2thr~=&*^,')'pt~(dM~02Z^*)xq~:%<lwp~B%=~(-N__~%!-~)ek~:%?~7%A~(4",
    "h~A'n\t~.5<*__callback^+%)Dbdata_p~-!U~(1>^-*%H__~&/t~&!N~).C*~%!;~'/g~(!o^/&S<~-4?~;+?tsd~B&U~/7+*__k~'%f~(&O~=+U~)MQ~C'i~-=f_~&!-,~,Aq~%%<tr~;&Mset~&!]~C%<~02",
    ",*~'%B~;%-clear~I%/ ~U%1~&'%getmsg~E%2~/C2 *__msg~<(g^0*6%~?1<^(*6A~<)e~&B+~%?M~D!w~&!S~;'+reset~B!v~?3y~B%a~**0~)Bc ^&*O-ts~;,Uhr_valid^+*p&~91.~7!g^&'&Mfo~<!g",
    "~-,'~&9k *_~%![p~?%+~(xq~B%,~/xb__~&!/~?%.g~H%-^+%!! __~%!/~?%)x~B%)~)4(x~I!v^+*Zr~6!y~':,size~=(,s~M(,^4%!q__~&!1~?%4~|(2s~E(2^,'T'~((=~1|N~0%)tlsbase~C%(~)86^",
    "+%6imod~(;/~)H9*__base~<&Jtl^&%'x~27=~6(g~,UR_~%=.address^+&pvoffset~4!V~''-ess~='0~'8M~%2m~C+L~A6G~&)3~47T~6&b~R7Thr~:8f~8'q~U%4~:8i~9)+~P8kh^)(uQ~E(Kprio~A!ss",
    "ig~'Ky~H&-~/M&__n^)'CA~+BWs~>/*~%!N~&iY~D%E~9%.~9-hsd~B%(^*%hR^/'S)t~)Ei*__da~':n~8%:db~'Rk~Y9fdbresum~B:O~'b&"]

end CInspect.Includes
